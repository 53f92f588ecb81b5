import Mathlib.Algebra.Group.Nat.Defs
import TextIndex.Number.Total

/-!
# Totals over lists

A total over a list may be taken in any order and over any part that leaves out nothing but zeros,
and a total of totals may be taken by rows or by columns.

* `total_filter`, `total_perm`: which elements count, and in which order.
* `total_map_add`, `total_map_total`: totals of sums, and of totals.
* `total_map_flatMap`: totals of what is gathered.
* `total_map_ite`: how often a value is in a list without repetitions.
* `KeptInWords`: what words keep of a number.
-/

namespace TextIndex

open TextIndex.Number

theorem total_filter {α : Type} {keeps : α → Bool} {measure : α → Nat} {list : List α}
    (nothing : ∀ value ∈ list, keeps value = false → measure value = 0) :
    total ((list.filter keeps).map measure) = total (list.map measure) := by
  induction list with
  | nil => rfl
  | cons first rest ih =>
    rw [List.forall_mem_cons] at nothing
    cases kept : keeps first with
    | true =>
      rw [List.filter_cons_of_pos kept, List.map_cons, List.map_cons, total_cons, total_cons,
        ih nothing.2]
    | false =>
      rw [List.filter_cons_of_neg (by simp [kept]), List.map_cons, total_cons, ih nothing.2,
        nothing.1 kept, Nat.zero_add]

/-- Totals do not depend on the order. -/
theorem total_perm {first second : List Nat} (reordered : first.Perm second) :
    total first = total second := by
  induction reordered with
  | nil => rfl
  | cons value _ ih => rw [total_cons, total_cons, ih]
  | swap one other rest =>
    simp only [total_cons]
    omega
  | trans _ _ earlier later => exact earlier.trans later

theorem total_le_total {α : Type} {smaller larger : α → Nat} {list : List α}
    (le : ∀ value ∈ list, smaller value ≤ larger value) :
    total (list.map smaller) ≤ total (list.map larger) := by
  induction list with
  | nil => exact Nat.le_refl _
  | cons first rest ih =>
    rw [List.forall_mem_cons] at le
    exact Nat.add_le_add le.1 (ih le.2)

theorem le_total_of_mem {α : Type} (measure : α → Nat) {value : α} {list : List α}
    (member : value ∈ list) : measure value ≤ total (list.map measure) := by
  induction member with
  | head => exact Nat.le_add_right _ _
  | tail _ _ ih => exact Nat.le_trans ih (Nat.le_add_left _ _)

theorem total_map_add {α : Type} (first second : α → Nat) (list : List α) :
    total (list.map fun value => first value + second value) =
      total (list.map first) + total (list.map second) := by
  induction list with
  | nil => rfl
  | cons value rest ih =>
    simp only [List.map_cons, total_cons, ih]
    omega

theorem total_map_zero {α : Type} (list : List α) : total (list.map fun _ => 0) = 0 := by
  induction list with
  | nil => rfl
  | cons _ _ ih => simpa using ih

/-- A table of numbers may be added up by its rows or by its columns. -/
theorem total_map_total {α β : Type} (measure : α → β → Nat) (rows : List α) (columns : List β) :
    total (rows.map fun row => total (columns.map (measure row))) =
      total (columns.map fun column => total (rows.map fun row => measure row column)) := by
  induction rows with
  | nil => exact (total_map_zero columns).symm
  | cons row rest ih => simp only [List.map_cons, total_cons, ih, total_map_add]

/-- A value that is in a list without repetitions is there once. -/
theorem total_map_ite {α : Type} [DecidableEq α] {value : α} {list : List α}
    (distinct : list.Nodup) (member : value ∈ list) :
    total (list.map fun other => if value = other then 1 else 0) = 1 := by
  induction list with
  | nil => cases member
  | cons first rest ih =>
    rw [List.nodup_cons] at distinct
    rw [List.map_cons, total_cons]
    by_cases own : value = first
    · have elsewhere : rest.map (fun other => if value = other then 1 else 0) =
          rest.map fun _ => 0 := by
        refine List.map_congr_left fun other isLater => if_neg fun same => ?_
        exact distinct.1 (own ▸ same ▸ isLater)
      rw [if_pos own, elsewhere, total_map_zero]
    · rw [if_neg own, ih distinct.2 ((List.mem_cons.mp member).resolve_left own)]

theorem length_flatMap {α β : Type} (parts : α → List β) (list : List α) :
    (list.flatMap parts).length = total (list.map fun value => (parts value).length) := by
  induction list with
  | nil => rfl
  | cons first rest ih => rw [List.flatMap_cons, List.length_append, ih, List.map_cons, total_cons]

/-- What is gathered part by part is counted part by part. -/
theorem total_map_flatMap {α β : Type} (measure : β → Nat) (parts : α → List β) (list : List α) :
    total ((list.flatMap parts).map measure) =
      total (list.map fun value => total ((parts value).map measure)) := by
  induction list with
  | nil => rfl
  | cons first rest ih =>
    rw [List.flatMap_cons, List.map_append, total_append, ih, List.map_cons, total_cons]

/-! ### Words -/

/-- What words keep of a number is the number up to whole turns of a word, and it is the number
itself if that fits into a word. -/
structure KeptInWords (kept number : Nat) : Prop where
  word : UInt64.ofNat kept = .ofNat number
  exact : number < 2 ^ 64 → kept = number

/-- A word keeps the number that it is a word of. -/
theorem keptInWords_toNat {word : UInt64} {number : Nat} :
    KeptInWords word.toNat number ↔ word = .ofNat number := by
  constructor
  · intro kept
    rw [← kept.word, UInt64.ofNat_toNat]
  · rintro rfl
    exact ⟨UInt64.ofNat_toNat, UInt64.toNat_ofNat_of_lt'⟩

/-- What is lost of a number is lost in whole turns. -/
theorem keptInWords_of_le {kept number : Nat} (word : UInt64.ofNat kept = .ofNat number)
    (le : kept ≤ number) : KeptInWords kept number where
  word := word
  exact := fun fits => by
    have same := congrArg UInt64.toNat word
    rwa [UInt64.toNat_ofNat_of_lt' (Nat.lt_of_le_of_lt le fits), UInt64.toNat_ofNat_of_lt' fits]
      at same

theorem ofNat_total_map {α : Type} {words : α → UInt64} {numbers : α → Nat} {list : List α}
    (keeps : ∀ value ∈ list, words value = .ofNat (numbers value)) :
    UInt64.ofNat (total (list.map fun value => (words value).toNat)) =
      .ofNat (total (list.map numbers)) := by
  induction list with
  | nil => rfl
  | cons first rest ih =>
    rw [List.forall_mem_cons] at keeps
    simp only [List.map_cons, total_cons, UInt64.ofNat_add, ih keeps.2, UInt64.ofNat_toNat, keeps.1]

theorem toNat_ofNat_le (number : Nat) : (UInt64.ofNat number).toNat ≤ number := by
  rw [UInt64.toNat_ofNat']
  exact Nat.mod_le _ _

end TextIndex
