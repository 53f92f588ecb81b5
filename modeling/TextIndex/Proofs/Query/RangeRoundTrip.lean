import TextIndex.Proofs.Json.Doubles
import TextIndex.Proofs.Json.Structures
import TextIndex.Proofs.Number.Infinities
import TextIndex.Proofs.Query.RangeSearch

/-!
# Range queries found again from their JSON

The parts of a range query that are absent are left out of its JSON, and are absent again when it is
read. A bound that is no finite number is written as null and so gets lost, and a finite one may be
read as a number next to it. Apart from that a query means what it meant before.

* `RangeQuery.reread?`, `RangeQuery.reread?_eq`: the query that is read from the text of a query.
* `Binary64.Kept`: the numbers that are read as they were written.
* `RangeQuery.Durable`: bounds without which, or with which again, the range is the same.
* `RangeQuery.reread_keeps`: what is left of a query, and when it means the same.
-/

namespace TextIndex

/-! ### Numbers -/

namespace Binary64

variable {x : Binary64}

/-- A number is read as it was written. -/
def Kept (x : Binary64) : Prop :=
  x.isFinite ∧ (Json.Literal.ofBinary64 x).toBinary64? = some x

instance (x : Binary64) : Decidable x.Kept :=
  inferInstanceAs (Decidable (_ ∧ _))

/-- What is read for a number that may be absent. There is none where it was not finite, and nothing
can be read if what was written is out of range. -/
def reread? (number : Option Binary64) : Option (Option Binary64) :=
  match number.filter (·.isFinite) with
  | some finite => (Json.Literal.ofBinary64 finite).toBinary64?.map some
  | none => some none

theorem reread?_of_kept {number : Option Binary64}
    (kept : ∀ x, number = some x → x.Kept) : reread? number = some number := by
  cases number with
  | none => rfl
  | some x =>
    obtain ⟨finite, same⟩ := kept x rfl
    unfold reread?
    rw [Option.filter_some_pos finite]
    simp only [same, Option.map_some]

theorem eq_of_reread? {number again : Option Binary64} (read : reread? number = some again)
    (kept : ∀ x, number = some x → x.Kept) : again = number :=
  Option.some.inj (read.symm.trans (reread?_of_kept kept))

/-- A number gets lost if it is not finite, and only then. -/
theorem eq_none_of_reread? {number again : Option Binary64}
    (read : reread? number = some again) :
    again = none ↔ ∀ x, number = some x → x.isFinite = false := by
  unfold reread? at read
  split at read
  · next x kept =>
    obtain ⟨rfl, finite⟩ := Option.filter_eq_some_iff.mp kept
    obtain ⟨other, -, rfl⟩ := Option.map_eq_some_iff.mp read
    simp [finite]
  · next lost =>
    obtain rfl := Option.some.inj read
    rw [Option.filter_eq_none_iff] at lost
    simpa using lost

theorem eq_some_of_kept {number again : Option Binary64} (read : reread? number = some again)
    (isNumber : number = some x) (kept : x.Kept) : again = some x := by
  subst isNumber
  refine eq_of_reread? read ?_
  rintro _ ⟨⟩
  exact kept

theorem eq_none_of_infinite {number again : Option Binary64} (read : reread? number = some again)
    (isNumber : number = some x) (infinite : ¬x.isFinite) : again = none := by
  subst isNumber
  rw [eq_none_of_reread? read]
  rintro _ ⟨⟩
  exact Bool.eq_false_of_not_eq_true infinite

end Binary64

namespace RangeQuery

variable {query again : RangeQuery}

/-! ### The query that is read -/

/-- The query that is read from the text of a query. -/
def reread? (query : RangeQuery) : Option RangeQuery :=
  (Json.parse? query.toJson.render).bind ofJson?

theorem written_optionalField {α : Type} {name : String} {write : α → Json} {value : Option α}
    (written : ∀ value, (write value).Written) :
    ∀ field ∈ optionalField name write value, field.2.Written := by
  intro field member
  cases value with
  | none => cases member
  | some value =>
    rw [List.mem_singleton.mp member]
    exact written value

theorem optionalField_sublist {α : Type} (name : String) (write : α → Json) (value : Option α) :
    ((optionalField name write value).map (·.1)).Sublist [name] := by
  cases value with
  | none => exact List.nil_sublist _
  | some value => exact List.Sublist.refl _

theorem find?_optionalField {α : Type} (own name : String) (write : α → Json) (value : Option α) :
    (optionalField own write value).find? (·.1 == name) =
      if own = name then value.map fun value => (own, write value) else none := by
  cases value with
  | none => simp [optionalField]
  | some value => simp [optionalField, List.find?_cons]; split <;> simp_all

/-- The members of the JSON of a query, each of which may be missing. -/
def members (query : RangeQuery) : List (String × Json) :=
  optionalField "min" .binary64 query.min ++ optionalField "max" .binary64 query.max ++
    optionalField "inclusive_min" .bool query.inclusiveMin ++
    optionalField "inclusive_max" .bool query.inclusiveMax ++
    optionalField "field" .string (some query.field |>.filter (· ≠ "")) ++
    optionalField "boost" .binary64 query.boost

theorem toJson_eq (query : RangeQuery) : query.toJson = .structured query.members := by
  have field : (if query.field = "" then [] else [("field", Json.string query.field)]) =
      optionalField "field" .string (some query.field |>.filter (· ≠ "")) := by
    by_cases unnamed : query.field = "" <;> simp [unnamed, optionalField, Option.filter]
  unfold toJson
  rw [field]
  rfl

theorem written_toJson (query : RangeQuery) : query.toJson.Written := by
  rw [toJson_eq]
  refine Json.written_structured ?_
  simp only [members, List.forall_mem_append]
  exact ⟨⟨⟨⟨⟨written_optionalField Json.written_binary64,
    written_optionalField Json.written_binary64⟩, written_optionalField .bool⟩,
    written_optionalField .bool⟩, written_optionalField Json.written_string⟩,
    written_optionalField Json.written_binary64⟩

/-- The members have the names of the parts, in order. -/
theorem members_sublist (query : RangeQuery) : (query.members.map (·.1)).Sublist
    ["min", "max", "inclusive_min", "inclusive_max", "field", "boost"] := by
  simp only [members, List.map_append]
  exact (((((optionalField_sublist _ _ _).append (optionalField_sublist _ _ _)).append
    (optionalField_sublist _ _ _)).append (optionalField_sublist _ _ _)).append
    (optionalField_sublist _ _ _)).append (optionalField_sublist _ _ _)

/-- Under each name is the part that was written under it. -/
theorem find?_members (query : RangeQuery) (name : String) :
    (⟨query.members, false⟩ : Record).find? name =
      (if "min" = name then query.min.map .binary64 else none).or
      ((if "max" = name then query.max.map .binary64 else none).or
      ((if "inclusive_min" = name then query.inclusiveMin.map .bool else none).or
      ((if "inclusive_max" = name then query.inclusiveMax.map .bool else none).or
      ((if "field" = name then (some query.field |>.filter (· ≠ "")).map .string else none).or
      (if "boost" = name then query.boost.map .binary64 else none))))) := by
  have part {α : Type} (own : String) (write : α → Json) (value : Option α) :
      ((optionalField own write value).find? (·.1 == name)).map (·.2) =
        if own = name then value.map write else none := by
    rw [find?_optionalField]
    split
    · exact Option.map_map _ _ value
    · rfl
  unfold Record.find? members
  simp only [List.find?_append, Option.map_or, part, Option.or_assoc]

section Parts

variable {record : Record} {name : String}

theorem orDefault_number {number : Option Binary64}
    (given : record.find? name = number.map .binary64) :
    record.orDefault name (Json.nullable? Json.binary64?) none = Binary64.reread? number := by
  unfold Record.orDefault Binary64.reread?
  rw [given]
  cases number with
  | none => rfl
  | some x =>
    simp only [Option.map_some, Json.nullable?_binary64, Option.filter_some]
    split <;> simp_all

theorem orDefault_flag {flag : Option Bool} (given : record.find? name = flag.map .bool) :
    record.orDefault name (Json.nullable? Json.bool?) none = some flag := by
  unfold Record.orDefault
  rw [given]
  cases flag <;> rfl

theorem orDefault_text {text : String}
    (given : record.find? name = (some text |>.filter (· ≠ "")).map .string) :
    record.orDefault name Json.string? "" = some text := by
  unfold Record.orDefault
  rw [given]
  by_cases isEmpty : text = ""
  · simp [isEmpty, Option.filter]
  · simp [isEmpty, Option.filter, Json.string?_string]

end Parts

/-- **A query is read with its field and its flags**, and with what is read for its numbers. -/
theorem reread?_eq (query : RangeQuery) : query.reread? = (do
    let lower ← Binary64.reread? query.min
    let upper ← Binary64.reread? query.max
    let boost ← Binary64.reread? query.boost
    some { query with min := lower, max := upper, boost }) := by
  have listed := query.members_sublist
  have record := @Json.record?_structured _ query.members
    (List.Nodup.sublist listed (by decide)) fun field member =>
      listed.subset (List.mem_map_of_mem member)
  have hasMin := @orDefault_number _ _ query.min
    ((query.find?_members "min").trans (by simp))
  have hasMax := @orDefault_number _ _ query.max
    ((query.find?_members "max").trans (by simp))
  have inclusiveMin := @orDefault_flag _ _ query.inclusiveMin
    ((query.find?_members "inclusive_min").trans (by simp))
  have inclusiveMax := @orDefault_flag _ _ query.inclusiveMax
    ((query.find?_members "inclusive_max").trans (by simp))
  have field := @orDefault_text _ _ query.field
    ((query.find?_members "field").trans (by simp))
  have boost := @orDefault_number _ _ query.boost
    ((query.find?_members "boost").trans (by simp))
  unfold reread?
  rw [Json.parse?_render query.written_toJson, Option.bind_some, toJson_eq]
  unfold ofJson?
  rw [record]
  simp only [Option.bind_eq_bind, Option.bind_some, hasMin, hasMax, inclusiveMin, inclusiveMax,
    field, boost]

/-- A query is read as another one, with the same field and flags and with what is read for its
numbers. -/
structure ReadAs (query again : RangeQuery) : Prop where
  field : again.field = query.field
  inclusiveMin : again.inclusiveMin = query.inclusiveMin
  inclusiveMax : again.inclusiveMax = query.inclusiveMax
  min : Binary64.reread? query.min = some again.min
  max : Binary64.reread? query.max = some again.max
  boost : Binary64.reread? query.boost = some again.boost

theorem reread?_eq_some : query.reread? = some again ↔ query.ReadAs again := by
  rw [reread?_eq]
  constructor
  · intro read
    obtain ⟨lower, isMin, read⟩ := Option.bind_eq_some_iff.mp read
    obtain ⟨upper, isMax, read⟩ := Option.bind_eq_some_iff.mp read
    obtain ⟨boost, isBoost, read⟩ := Option.bind_eq_some_iff.mp read
    obtain rfl := Option.some.inj read
    exact ⟨rfl, rfl, rfl, isMin, isMax, isBoost⟩
  · rintro ⟨field, inclusiveMin, inclusiveMax, hasMin, hasMax, boost⟩
    rw [hasMin, hasMax, boost]
    obtain ⟨_, _, _, _, _, _⟩ := again
    subst field inclusiveMin inclusiveMax
    rfl

/-! ### What a query means -/

/-- Two queries mean the same. -/
structure MeansSame (first second : RangeQuery) : Prop where
  field : first.field = second.field
  validate : first.validate = second.validate
  contains : ∀ value, first.contains value = second.contains value

/-- Some bound is a finite number. -/
def HasFiniteBound (query : RangeQuery) : Prop :=
  ∃ bound, (query.min = some bound ∨ query.max = some bound) ∧ bound.isFinite

/-- Each bound is kept, or is the infinity that no number lies beyond, is part of the range, and is
not needed since the other bound keeps out what is no number. -/
structure Durable (query : RangeQuery) : Prop where
  lower : ∀ bound, query.min = some bound → bound.Kept ∨ bound = .infinity true ∧
    query.inclusiveMin ≠ some false ∧ ∃ other, query.max = some other ∧ other.Kept
  upper : ∀ bound, query.max = some bound → bound.Kept ∨ bound = .infinity false ∧
    query.inclusiveMax = some true ∧ ∃ other, query.min = some other ∧ other.Kept

theorem validate_eq_iff (field : again.field = query.field) :
    again.validate = query.validate ↔
      ((again.min = none ∧ again.max = none) ↔ (query.min = none ∧ query.max = none)) := by
  unfold validate
  rw [field]
  by_cases first : again.min = none ∧ again.max = none <;>
    by_cases second : query.min = none ∧ query.max = none <;>
    by_cases unnamed : query.field = "" <;> simp [first, second, unnamed]

/-- A bound keeps out what is no number. -/
theorem isNaN_of_admitsAbove {bound value : Binary64} (isBound : query.min = some bound)
    (admits : query.admitsAbove value) : value.isNaN = false := by
  unfold admitsAbove Binary64.le Binary64.lt at admits
  rw [isBound] at admits
  simp only at admits
  split at admits <;> simp_all

theorem isNaN_of_admitsBelow {bound value : Binary64} (isBound : query.max = some bound)
    (admits : query.admitsBelow value) : value.isNaN = false := by
  unfold admitsBelow Binary64.le Binary64.lt at admits
  rw [isBound] at admits
  simp only at admits
  split at admits <;> simp_all

/-! ### What is left of a query -/

section Reading

variable {value : Binary64}

theorem admitsAbove_congr {first second : RangeQuery} (hasMin : first.min = second.min)
    (inclusive : first.inclusiveMin = second.inclusiveMin) :
    first.admitsAbove value = second.admitsAbove value := by
  unfold admitsAbove
  rw [hasMin, inclusive]

theorem admitsBelow_congr {first second : RangeQuery} (hasMax : first.max = second.max)
    (inclusive : first.inclusiveMax = second.inclusiveMax) :
    first.admitsBelow value = second.admitsBelow value := by
  unfold admitsBelow
  rw [hasMax, inclusive]

/-- No bound is left exactly if none was finite. -/
theorem ReadAs.unbounded_iff (read : query.ReadAs again) :
    again.min = none ∧ again.max = none ↔ ¬query.HasFiniteBound := by
  rw [Binary64.eq_none_of_reread? read.min, Binary64.eq_none_of_reread? read.max]
  constructor
  · rintro ⟨hasMin, hasMax⟩ ⟨bound, isMin | isMax, finite⟩
    · exact Bool.false_ne_true ((hasMin bound isMin).symm.trans finite)
    · exact Bool.false_ne_true ((hasMax bound isMax).symm.trans finite)
  · intro lost
    exact ⟨fun bound isMin => Bool.eq_false_of_not_eq_true fun finite =>
        lost ⟨bound, .inl isMin, finite⟩,
      fun bound isMax => Bool.eq_false_of_not_eq_true fun finite =>
        lost ⟨bound, .inr isMax, finite⟩⟩

/-- A query is valid as before unless it had bounds and none of them was finite. -/
theorem ReadAs.validate_eq_iff (read : query.ReadAs again) :
    again.validate = query.validate ↔
      (query.min = none ∧ query.max = none) ∨ query.HasFiniteBound := by
  rw [RangeQuery.validate_eq_iff read.field, read.unbounded_iff]
  by_cases unbounded : query.min = none ∧ query.max = none
  · have lost : ¬query.HasFiniteBound := by
      rintro ⟨bound, isMin | isMax, -⟩
      · exact nomatch unbounded.1.symm.trans isMin
      · exact nomatch unbounded.2.symm.trans isMax
    simp only [unbounded, lost, and_self, not_false_eq_true, true_or]
  · simp only [unbounded, iff_false, not_not, false_or]

theorem Durable.unbounded_or_hasFiniteBound (durable : query.Durable) :
    (query.min = none ∧ query.max = none) ∨ query.HasFiniteBound := by
  cases isMin : query.min with
  | some bound =>
    obtain kept | ⟨-, -, other, isMax, kept⟩ := durable.lower bound isMin
    · exact .inr ⟨bound, .inl isMin, kept.1⟩
    · exact .inr ⟨other, .inr isMax, kept.1⟩
  | none =>
    cases isMax : query.max with
    | some bound =>
      obtain kept | ⟨-, -, other, isOther, -⟩ := durable.upper bound isMax
      · exact .inr ⟨bound, .inr isMax, kept.1⟩
      · exact nomatch isMin.symm.trans isOther
    | none => exact .inl ⟨rfl, rfl⟩

/-- Without the lower infinity as its bound a range is the same if it has an upper bound. -/
theorem contains_eq_of_lower_lost (lost : again.min = none)
    (lower : query.min = some (.infinity true)) (inclusive : query.inclusiveMin ≠ some false)
    {other : Binary64} (upper : query.max = some other)
    (below : again.admitsBelow value = query.admitsBelow value) :
    again.contains value = query.contains value := by
  have above : again.admitsAbove value = true := by
    unfold admitsAbove
    rw [lost]
  have included : query.inclusiveMin.getD true = true := by
    rcases isFlag : query.inclusiveMin with _ | _ | _ <;> simp_all
  have number : query.admitsAbove value = !value.isNaN := by
    unfold admitsAbove
    simp only [lower, included, if_true, Binary64.infinity_le]
  unfold contains
  rw [above, below, number, Bool.true_and]
  cases admits : query.admitsBelow value with
  | true => rw [isNaN_of_admitsBelow upper admits]; rfl
  | false => rw [Bool.and_false]

/-- Without the upper infinity as its bound a range is the same if it has a lower bound. -/
theorem contains_eq_of_upper_lost (lost : again.max = none)
    (upper : query.max = some (.infinity false)) (inclusive : query.inclusiveMax = some true)
    {other : Binary64} (lower : query.min = some other)
    (above : again.admitsAbove value = query.admitsAbove value) :
    again.contains value = query.contains value := by
  have below : again.admitsBelow value = true := by
    unfold admitsBelow
    rw [lost]
  have number : query.admitsBelow value = !value.isNaN := by
    unfold admitsBelow
    simp only [upper, inclusive, Option.getD_some, if_true, Binary64.le_infinity]
  unfold contains
  rw [below, above, number, Bool.and_true]
  cases admits : query.admitsAbove value with
  | true => rw [isNaN_of_admitsAbove lower admits]; rfl
  | false => rw [Bool.false_and]

theorem ReadAs.contains_eq (read : query.ReadAs again) (durable : query.Durable) :
    again.contains value = query.contains value := by
  by_cases keptMin : ∀ bound, query.min = some bound → bound.Kept
  · have above : again.admitsAbove value = query.admitsAbove value :=
      admitsAbove_congr (Binary64.eq_of_reread? read.min keptMin) read.inclusiveMin
    by_cases keptMax : ∀ bound, query.max = some bound → bound.Kept
    · unfold contains
      rw [above, admitsBelow_congr (Binary64.eq_of_reread? read.max keptMax) read.inclusiveMax]
    · -- the upper bound is the infinity, and it is lost
      obtain ⟨bound, isMax, lost⟩ := not_forall₂.mp keptMax
      obtain ⟨rfl, inclusive, other, isMin, -⟩ := (durable.upper bound isMax).resolve_left lost
      have gone : again.max = none :=
        Binary64.eq_none_of_infinite read.max isMax (Binary64.not_isFinite_infinity false)
      exact contains_eq_of_upper_lost gone isMax inclusive isMin above
  · -- the lower bound is the infinity, and it is lost, so the upper one is kept
    obtain ⟨bound, isMin, lost⟩ := not_forall₂.mp keptMin
    obtain ⟨rfl, inclusive, other, isMax, kept⟩ := (durable.lower bound isMin).resolve_left lost
    have gone : again.min = none :=
      Binary64.eq_none_of_infinite read.min isMin (Binary64.not_isFinite_infinity true)
    have sameMax : again.max = query.max :=
      (Binary64.eq_some_of_kept read.max isMax kept).trans isMax.symm
    exact contains_eq_of_lower_lost gone isMin inclusive isMax
      (admitsBelow_congr sameMax read.inclusiveMax)

/-- A query that had bounds and means the same has a finite one. -/
theorem ReadAs.hasFiniteBound (read : query.ReadAs again) (same : again.MeansSame query)
    {bound : Binary64} (isBound : query.min = some bound ∨ query.max = some bound) :
    query.HasFiniteBound := by
  obtain ⟨noMin, noMax⟩ | finite := read.validate_eq_iff.mp same.validate
  · obtain isMin | isMax := isBound
    · exact nomatch noMin.symm.trans isMin
    · exact nomatch noMax.symm.trans isMax
  · exact finite

/-- The lower infinity is not too large for a finite upper bound. -/
theorem contains_lower (unbounded : query.min = none) {bound : Binary64}
    (isMax : query.max = some bound) (finite : bound.isFinite) :
    query.contains (.infinity true) = true := by
  rw [contains_iff]
  refine ⟨fun other isMin => (nomatch unbounded.symm.trans isMin), fun other isOther => ?_⟩
  obtain rfl := Option.some.inj (isMax.symm.trans isOther)
  split
  · rw [Binary64.infinity_le, Binary64.isNaN_of_isFinite finite]
    rfl
  · exact Binary64.infinity_lt finite

/-- The upper infinity is not too small for a finite lower bound. -/
theorem contains_upper (unbounded : query.max = none) {bound : Binary64}
    (isMin : query.min = some bound) (finite : bound.isFinite) :
    query.contains (.infinity false) = true := by
  rw [contains_iff]
  refine ⟨fun other isOther => ?_, fun other isMax => nomatch unbounded.symm.trans isMax⟩
  obtain rfl := Option.some.inj (isMin.symm.trans isOther)
  split
  · exact Binary64.lt_infinity finite
  · rw [Binary64.le_infinity, Binary64.isNaN_of_isFinite finite]
    rfl

/-- The bounds are durable if the query means the same and the finite ones are kept. A lost bound
lets in the infinity on its side, so it was that infinity and let it in before. -/
theorem ReadAs.durable (read : query.ReadAs again) (same : again.MeansSame query)
    (kept : ∀ bound, query.min = some bound ∨ query.max = some bound → bound.isFinite →
      bound.Kept) : query.Durable := by
  constructor
  · intro bound isMin
    by_cases finite : bound.isFinite
    · exact .inl (kept bound (.inl isMin) finite)
    obtain ⟨other, isOther | isMax, finiteOther⟩ := read.hasFiniteBound same (.inl isMin)
    · exact absurd (Option.some.inj (isMin.symm.trans isOther) ▸ finiteOther) finite
    have keptOther := kept other (.inr isMax) finiteOther
    have letIn := contains_lower (Binary64.eq_none_of_infinite read.min isMin finite)
      (Binary64.eq_some_of_kept read.max isMax keptOther) finiteOther
    rw [same.contains, contains_iff] at letIn
    have above := letIn.above bound isMin
    split at above
    · rw [Binary64.not_lt_lower] at above
      exact absurd above Bool.false_ne_true
    · next inclusive =>
      exact .inr ⟨Binary64.le_lower_iff.mp above, inclusive, other, isMax, keptOther⟩
  · intro bound isMax
    by_cases finite : bound.isFinite
    · exact .inl (kept bound (.inr isMax) finite)
    obtain ⟨other, isMin | isOther, finiteOther⟩ := read.hasFiniteBound same (.inr isMax)
    · have keptOther := kept other (.inl isMin) finiteOther
      have letIn := contains_upper (Binary64.eq_none_of_infinite read.max isMax finite)
        (Binary64.eq_some_of_kept read.min isMin keptOther) finiteOther
      rw [same.contains, contains_iff] at letIn
      have below := letIn.below bound isMax
      split at below
      · next inclusive =>
        exact .inr ⟨Binary64.upper_le_iff.mp below, inclusive, other, isMin, keptOther⟩
      · rw [Binary64.not_upper_lt] at below
        exact absurd below Bool.false_ne_true
    · exact absurd (Option.some.inj (isMax.symm.trans isOther) ▸ finiteOther) finite

end Reading

/-- **What is read from the JSON of a query.** A query all of whose numbers are kept is read as it
was. Whatever else is read has the field and the flags, loses the bounds that are not finite, and is
valid as before unless all bounds are lost that way. It means the same if its bounds are durable,
and only then if the finite ones are kept. A finite number is kept if the digits and the power of
ten that are written for it are exact. -/
theorem reread_keeps (query : RangeQuery) :
    ((∀ number, query.min = some number ∨ query.max = some number ∨ query.boost = some number →
      number.Kept) → query.reread? = some query) ∧
    (∀ again, query.reread? = some again → query.ReadAs again ∧
      (again.validate = query.validate ↔
        (query.min = none ∧ query.max = none) ∨ query.HasFiniteBound) ∧
      (query.Durable → again.MeansSame query) ∧
      ((∀ bound, query.min = some bound ∨ query.max = some bound → bound.isFinite → bound.Kept) →
        again.MeansSame query → query.Durable)) ∧
    ∀ number : Binary64, number.isFinite → (Json.Literal.ofBinary64 number).Exact →
      number.Kept := by
  refine ⟨fun kept => ?_, fun again isRead => ?_, fun number finite exact => ?_⟩
  · exact reread?_eq_some.mpr ⟨rfl, rfl, rfl,
      Binary64.reread?_of_kept fun number isMin => kept number (.inl isMin),
      Binary64.reread?_of_kept fun number isMax => kept number (.inr (.inl isMax)),
      Binary64.reread?_of_kept fun number isBoost => kept number (.inr (.inr isBoost))⟩
  · have read := reread?_eq_some.mp isRead
    refine ⟨read, read.validate_eq_iff, fun durable => ?_, fun kept same => read.durable same kept⟩
    exact ⟨read.field, read.validate_eq_iff.mpr durable.unbounded_or_hasFiniteBound,
      fun value => read.contains_eq durable⟩
  · exact ⟨finite, Json.Literal.toBinary64?_ofBinary64 finite exact⟩

/-- A query for the numbers from 1.5 up to another one. -/
def fromOneHalf (upper : Option Binary64) : RangeQuery :=
  { min := some ⟨0x3FF8000000000000⟩, max := upper, inclusiveMax := some true, field := "price" }

/-- The upper infinity is not needed as a bound. -/
theorem reread_keeps_fromOneHalf :
    (fromOneHalf none).reread? = some (fromOneHalf none) ∧
      (fromOneHalf (some (.infinity false))).reread? = some (fromOneHalf none) ∧
      (fromOneHalf none).MeansSame (fromOneHalf (some (.infinity false))) ∧
      (fromOneHalf (some (.infinity false))).Durable := by
  have exact : (Json.Literal.ofBinary64 ⟨0x3FF8000000000000⟩).Exact := by decide +kernel
  have kept : Binary64.Kept ⟨0x3FF8000000000000⟩ :=
    (reread_keeps (fromOneHalf none)).2.2 _ (by decide) exact
  have whole : (fromOneHalf none).reread? = some (fromOneHalf none) := by
    refine (reread_keeps _).1 ?_
    rintro _ (⟨⟨⟩⟩ | ⟨⟨⟩⟩ | ⟨⟨⟩⟩)
    exact kept
  have read : (fromOneHalf (some (.infinity false))).reread? = some (fromOneHalf none) :=
    reread?_eq_some.mpr
      ⟨rfl, rfl, rfl, (reread?_eq_some.mp whole).min, by decide, (reread?_eq_some.mp whole).boost⟩
  have durable : (fromOneHalf (some (.infinity false))).Durable := by
    constructor
    · rintro _ ⟨⟩
      exact .inl kept
    · rintro _ ⟨⟩
      exact .inr ⟨rfl, rfl, _, rfl, kept⟩
  obtain ⟨-, -, same, least⟩ := (reread_keeps _).2.1 _ read
  refine ⟨whole, read, same durable, least ?_ (same durable)⟩
  rintro _ (⟨⟨⟩⟩ | ⟨⟨⟩⟩) finite
  · exact kept
  · exact absurd finite (by decide)

/-- A query need not mean the same if a bound is not finite, and it need not if all are finite
either: a number may be read as the one next to it. -/
theorem not_reread_keeps :
    (¬∀ query again : RangeQuery, query.reread? = some again → again.MeansSame query) ∧
      ¬∀ query again : RangeQuery, query.HasFiniteBound →
        (∀ bound, query.min = some bound ∨ query.max = some bound → bound.isFinite) →
        query.reread? = some again → again.MeansSame query := by
  constructor
  · intro same
    have read : ({ min := some .nan, field := "price" } : RangeQuery).reread? =
        some { field := "price" } :=
      reread?_eq_some.mpr ⟨rfl, rfl, rfl, by decide, rfl, rfl⟩
    have letIn := (same _ _ read).contains .one
    revert letIn
    decide
  · intro same
    -- 10.799812947144499 is read as 10.7998129471445
    have read : ({ min := some ⟨4622269372250312278⟩, field := "price" } : RangeQuery).reread? =
        some { min := some ⟨4622269372250312279⟩, field := "price" } :=
      reread?_eq_some.mpr ⟨rfl, rfl, rfl, by decide +kernel, rfl, rfl⟩
    have letIn := (same _ _ ⟨_, .inl rfl, by decide⟩ (by rintro _ (⟨⟨⟩⟩ | ⟨⟨⟩⟩); decide)
      read).contains ⟨4622269372250312278⟩
    revert letIn
    decide

end RangeQuery

end TextIndex
