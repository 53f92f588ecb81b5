import Mathlib.Data.List.Nodup
import TextIndex.Json.Record
import TextIndex.Proofs.Json.Reading
import TextIndex.Proofs.KeyedLists

/-!
# Reading structures that were written

What is written for texts, integers, lists and structures can be written in JSON and is read again
as what it stands for. A structure is written with its own names, each of them once.

* `Json.string?_string`, `Json.integer?_integer`, `Json.list?_map`, `Json.nullable?_nullable`: the
  parts of structures.
* `Json.choice?_tagged`, `Json.choice?_string`: choices.
* `Json.record?_structured`, `Json.mapM_required`: structures.
-/

namespace TextIndex.Json

open TextIndex.Number

/-! ### What is written -/

theorem written_string (value : String) : (string value).Written :=
  .text TextUnit.written_ofString

theorem written_integer (value : Int) : (integer value).Written :=
  .number (Literal.written_ofInt value)

theorem written_array_map {α : Type} {write : α → Json} {values : List α}
    (written : ∀ value ∈ values, (write value).Written) : (array (values.map write)).Written := by
  refine .array fun element member => ?_
  obtain ⟨value, isValue, rfl⟩ := List.mem_map.mp member
  exact written value isValue

theorem written_structured {fields : List (String × Json)}
    (written : ∀ field ∈ fields, field.2.Written) : (structured fields).Written := by
  refine .object (fun member isMember => ?_) fun member isMember => ?_
  · obtain ⟨field, -, rfl⟩ := List.mem_map.mp isMember
    exact TextUnit.written_ofString
  · obtain ⟨field, isField, rfl⟩ := List.mem_map.mp isMember
    exact written field isField

/-! ### What is read -/

theorem string?_string (value : String) : (string value).string? = some value := by
  show (TextUnit.decode? (TextUnit.ofString value)).map String.ofList = some value
  rw [TextUnit.decode?_ofString, Option.map_some, String.ofList_toList]

theorem Literal.toInt?_ofInt (value : Int) : (Literal.ofInt value).toInt? = some value := by
  unfold Literal.ofInt Literal.toInt?
  simp only [and_self, if_true, ofDigits_digitsOf]
  by_cases negative : value < 0
  · have nonzero : value.natAbs ≠ 0 := by omega
    simp only [negative, decide_true, if_true, if_neg nonzero, Option.some.injEq]
    omega
  · simp only [negative, decide_false, Bool.false_eq_true, if_false, Option.some.injEq]
    omega

theorem integer?_integer {low high value : Int} (above : low ≤ value) (below : value ≤ high) :
    (integer value).integer? low high = some value := by
  unfold integer integer?
  simp [Literal.toInt?_ofInt, above, below]

theorem mapM_map_eq_some {α β γ : Type} {make : α → β} {read : β → Option γ} {result : α → γ}
    {values : List α} (again : ∀ value ∈ values, read (make value) = some (result value)) :
    (values.map make).mapM read = some (values.map result) := by
  induction values with
  | nil => rfl
  | cons first later ih =>
    rw [List.forall_mem_cons] at again
    rw [List.map_cons, List.mapM_cons, again.1, ih again.2]
    rfl

theorem list?_map {α : Type} {write : α → Json} {read : Json → Option α} {values : List α}
    (again : ∀ value ∈ values, read (write value) = some value) :
    (array (values.map write)).list? read = some values :=
  (mapM_map_eq_some again).trans (congrArg some (List.map_id values))

theorem nullable?_nullable {α : Type} {write : α → Json} {read : Json → Option α}
    (again : ∀ value, read (write value) = some value) (notNull : ∀ value, write value ≠ null)
    (value : Option α) : (nullable write value).nullable? read = some value := by
  cases value with
  | none => rfl
  | some value =>
    unfold nullable nullable?
    split
    · next isNull => exact absurd isNull (notNull value)
    · rw [again]
      rfl

/-- **A structure is read as it was written**, if its names are distinct. -/
theorem record?_structured {names : List String} {fields : List (String × Json)}
    (distinct : (fields.map (·.1)).Nodup) (known : ∀ field ∈ fields, field.1 ∈ names) :
    (structured fields).record? names = some ⟨fields, false⟩ := by
  have members : Record.ofMembers? names
      (fields.map fun field => (TextUnit.ofString field.1, field.2)) = some fields := by
    induction fields with
    | nil => rfl
    | cons first later ih =>
      rw [List.map_cons, List.nodup_cons] at distinct
      rw [List.forall_mem_cons] at known
      have fresh : later.any (·.1 == first.1) = false := by
        refine List.any_eq_false.mpr fun other member => ?_
        have apart : other.1 ≠ first.1 := fun same =>
          distinct.1 (List.mem_map.mpr ⟨other, member, same⟩)
        simpa using apart
      simp [Record.ofMembers?, TextUnit.decode?_ofString, ih distinct.2 known.2, known.1, fresh]
  show (Record.ofMembers? names
    (fields.map fun field => (TextUnit.ofString field.1, field.2))).map _ = _
  rw [members]
  rfl

/-- Fields that are all of one kind are found under their names. -/
theorem mapM_required {α : Type} {write : α → Json} {read : Json → Option α}
    (again : ∀ value, read (write value) = some value) {entries : List (String × α)}
    (distinct : (entries.map (·.1)).Nodup) (listed : Bool) :
    (entries.map (·.1)).mapM (fun name =>
      (⟨entries.map fun entry => (entry.1, write entry.2), listed⟩ : Record).required name read) =
        some (entries.map (·.2)) := by
  refine mapM_map_eq_some fun entry member => ?_
  have found : entries.find? (·.1 == entry.1) = some entry := by
    rw [← List.head?_filter, filter_key_eq_singleton _ distinct member, List.head?_cons]
  unfold Record.required Record.find?
  rw [List.find?_map]
  show ((entries.find? (·.1 == entry.1)).map _ |>.map _).bind read = _
  rw [found]
  exact again entry.2

/-- A case that comes with a value. -/
theorem choice?_tagged (name : String) (value : Json) :
    (tagged name value).choice? = some (name, some value) := by
  unfold tagged structured
  show (TextUnit.decode? (TextUnit.ofString name)).map _ = _
  rw [TextUnit.decode?_ofString]
  simp

theorem choice?_string (name : String) : (string name).choice? = some (name, none) := by
  show (TextUnit.decode? (TextUnit.ofString name)).map _ = _
  rw [TextUnit.decode?_ofString]
  simp

end TextIndex.Json
