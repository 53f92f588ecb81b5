import Mathlib.Data.List.Nodup
import Std.Data.ExtTreeMap
import Std.Data.ExtTreeSet

/-!
# Lists with distinct keys

The entries of a map have distinct keys, and so has what passes on from a list whose keys are
distinct. Sorted by its keys, such a list ascends.

* `values_eq_map_snd`: the values of a map, in the order of their keys.
* `toList_ofList_perm`: the entries of a map that is made of a list.
* `toList_insert_empty`: the entry of a map with one entry.
* `map_filterMap_sublist`: the keys of what passes on.
* `nodup_flatMap_key`: what is gathered from the entries.
* `perm_cons_filter`: what is taken out by its key.
* `pairwise_lt_mergeSort_key`: what is sorted by distinct keys.
* `mergeSort_key_eq_of_perm`: in which order it came makes no difference.
* `held_of_concat`: what has a place in a list that has grown at its end.
-/

namespace TextIndex

/-- The entries of a map have distinct keys. -/
theorem nodup_map_fst_toList {κ ν : Type} [Ord κ] [Std.TransOrd κ] (map : Std.ExtTreeMap κ ν) :
    (map.toList.map Prod.fst).Nodup := by
  rw [Std.ExtTreeMap.map_fst_toList_eq_keys]
  exact Std.ExtTreeMap.nodup_keys

/-- The values of a map come with its entries. -/
theorem values_eq_map_snd {κ ν : Type} [Ord κ] [Std.TransOrd κ] (map : Std.ExtTreeMap κ ν) :
    map.values = map.toList.map Prod.snd := by
  obtain ⟨inner⟩ := map
  induction inner using Std.ExtDTreeMap.inductionOn with
  | mk tree =>
    show tree.inner.values =
      (Std.DTreeMap.Internal.Impl.Const.toList tree.inner).map Prod.snd
    rw [Std.DTreeMap.Internal.Impl.values_eq_map_snd,
      Std.DTreeMap.Internal.Impl.Const.toList_eq_toListModel_map, List.map_map]
    rfl

/-- A map that is made of a list with distinct keys has its entries. -/
theorem toList_ofList_perm {κ ν : Type} [Ord κ] [Std.TransOrd κ] [Std.LawfulEqOrd κ] [BEq κ]
    [LawfulBEq κ] [Std.LawfulBEqOrd κ] {entries : List (κ × ν)}
    (distinct : (entries.map Prod.fst).Nodup) :
    (Std.ExtTreeMap.ofList entries).toList.Perm entries := by
  have apart : entries.Pairwise fun one other => ¬compare one.1 other.1 = .eq :=
    (List.pairwise_map.mp distinct).imp fun ne same => ne (Std.LawfulEqCmp.eq_of_compare same)
  refine (List.perm_ext_iff_of_nodup ((nodup_map_fst_toList _).of_map _)
    (distinct.of_map _)).mpr fun ⟨key, value⟩ => ?_
  rw [Std.ExtTreeMap.mem_toList_iff_getElem?_eq_some]
  have found {value : ν} (member : (key, value) ∈ entries) :
      (Std.ExtTreeMap.ofList entries)[key]? = some value :=
    Std.ExtTreeMap.getElem?_ofList_of_mem Std.ReflCmp.compare_self apart member
  refine ⟨fun held => ?_, found⟩
  by_cases known : key ∈ entries.map Prod.fst
  · obtain ⟨⟨_, other⟩, member, rfl⟩ := List.mem_map.mp known
    rwa [Option.some.inj (held.symm.trans (found member))]
  · rw [Std.ExtTreeMap.getElem?_ofList_of_contains_eq_false (by simpa using known)] at held
    cases held

theorem toList_insert_empty {κ ν : Type} [Ord κ] [Std.TransOrd κ] [Std.LawfulEqOrd κ] [BEq κ]
    [LawfulBEq κ] [Std.LawfulBEqOrd κ] (key : κ) (value : ν) :
    ((∅ : Std.ExtTreeMap κ ν).insert key value).toList = [(key, value)] := by
  rw [← Std.ExtTreeMap.ofList_singleton]
  exact List.perm_singleton.mp (toList_ofList_perm (List.nodup_singleton key))

/-- A key that a map does not contain has no value. -/
theorem contains_eq_false_iff {κ ν : Type} [Ord κ] [Std.TransOrd κ] {map : Std.ExtTreeMap κ ν}
    {key : κ} : map.contains key = false ↔ map[key]? = none := by
  rw [Std.ExtTreeMap.contains_eq_isSome_getElem?, Option.isSome_eq_false_iff,
    Option.isNone_iff_eq_none]

/-- The elements of a set are distinct. -/
theorem nodup_toList {κ : Type} [Ord κ] [Std.TransOrd κ] (set : Std.ExtTreeSet κ) :
    set.toList.Nodup :=
  Std.ExtTreeSet.distinct_toList.imp Std.ReflCmp.ne_of_cmp_ne_eq

/-- The keys of what passes on are keys of the list, in the same order. -/
theorem map_filterMap_sublist {α β κ : Type} {pass : α → Option β} {before : α → κ} {after : β → κ}
    {list : List α} (keeps : ∀ value ∈ list, ∀ result, pass value = some result →
      after result = before value) :
    ((list.filterMap pass).map after).Sublist (list.map before) := by
  induction list with
  | nil => exact .slnil
  | cons first rest ih =>
    rw [List.forall_mem_cons] at keeps
    cases passed : pass first with
    | none =>
      rw [List.filterMap_cons_none passed, List.map_cons]
      exact (ih keeps.2).cons _
    | some result =>
      rw [List.filterMap_cons_some passed, List.map_cons, List.map_cons, keeps.1 result passed]
      exact (ih keeps.2).cons_cons _

/-- What is gathered from entries with distinct keys is distinct, if each entry gives distinct
elements and these tell its key. -/
theorem nodup_flatMap_key {α β κ : Type} {keyOf : α → κ} {parts : α → List β} {list : List α}
    (distinct : (list.map keyOf).Nodup) (each : ∀ value ∈ list, (parts value).Nodup)
    (tells : β → κ) (own : ∀ value ∈ list, ∀ part ∈ parts value, tells part = keyOf value) :
    (list.flatMap parts).Nodup := by
  refine List.nodup_flatMap.mpr ⟨each, (List.pairwise_map.mp distinct).imp_of_mem ?_⟩
  intro one other isOne isOther apart part ofOne ofOther
  exact apart ((own one isOne part ofOne).symm.trans (own other isOther part ofOther))

section Extraction

variable {α κ : Type} [BEq κ] [LawfulBEq κ] (keyOf : α → κ)

/-- A value is taken out of a list by its key. -/
theorem perm_cons_filter {list : List α} (distinct : (list.map keyOf).Nodup) {value : α}
    (member : value ∈ list) :
    list.Perm (value :: list.filter fun other => keyOf other != keyOf value) := by
  induction list with
  | nil => cases member
  | cons first rest ih =>
    rw [List.map_cons, List.nodup_cons] at distinct
    have apart {other : α} (later : other ∈ rest) : keyOf other ≠ keyOf first := fun same =>
      distinct.1 (List.mem_map.mpr ⟨other, later, same⟩)
    rcases List.mem_cons.mp member with rfl | later
    · have others : (rest.filter fun other => keyOf other != keyOf value) = rest :=
        List.filter_eq_self.mpr fun other later => by simpa using apart later
      rw [List.filter_cons_of_neg (by simp), others]
    · rw [List.filter_cons_of_pos (by simpa using (apart later).symm)]
      exact ((ih distinct.2 later).cons first).trans (.swap ..)

/-- The values of a key are one value. -/
theorem filter_key_eq_singleton {list : List α} (distinct : (list.map keyOf).Nodup) {value : α}
    (member : value ∈ list) : (list.filter fun other => keyOf other == keyOf value) = [value] := by
  have out := (perm_cons_filter keyOf distinct member).filter
    fun other => keyOf other == keyOf value
  have nobody :
      (list.filter fun other => keyOf other == keyOf value && keyOf other != keyOf value) = [] :=
    List.filter_eq_nil_iff.mpr fun other _ => by simp [bne]
  rw [List.filter_cons_of_pos (by simp), List.filter_filter, nobody] at out
  exact List.perm_singleton.mp out

end Extraction

section Sorting

variable {α κ : Type} [Ord κ] [Std.TransOrd κ] (keyOf : α → κ)

/-- What is sorted by keys has them in order. -/
theorem pairwise_mergeSort_key (list : List α) :
    (list.mergeSort fun first second => (compare (keyOf first) (keyOf second)).isLE).Pairwise
      fun first second => (compare (keyOf first) (keyOf second)).isLE := by
  refine List.pairwise_mergeSort (fun _ _ _ => Std.TransCmp.isLE_trans) (fun first second => ?_) _
  have swapped : compare (keyOf first) (keyOf second) =
      (compare (keyOf second) (keyOf first)).swap := Std.OrientedCmp.eq_swap
  rw [swapped]
  cases compare (keyOf second) (keyOf first) <;> rfl

/-- If no key is there twice, they ascend. -/
theorem pairwise_lt_mergeSort_key [Std.LawfulEqOrd κ] {list : List α}
    (distinct : (list.map keyOf).Nodup) :
    (list.mergeSort fun first second => (compare (keyOf first) (keyOf second)).isLE).Pairwise
      fun first second => compare (keyOf first) (keyOf second) = .lt := by
  have sortedDistinct := ((List.mergeSort_perm list fun first second =>
    (compare (keyOf first) (keyOf second)).isLE).map keyOf).nodup_iff.mpr distinct
  refine (pairwise_mergeSort_key keyOf list).imp₂ (fun first second le ne => ?_)
    (List.pairwise_map.mp sortedDistinct)
  cases order : compare (keyOf first) (keyOf second) with
  | lt => rfl
  | eq => exact absurd (Std.LawfulEqCmp.eq_of_compare order) ne
  | gt =>
    rw [order] at le
    cases le

/-- Then the order of the list makes no difference. -/
theorem mergeSort_key_eq_of_perm [Std.LawfulEqOrd κ] {first second : List α}
    (distinct : (first.map keyOf).Nodup) (reordered : first.Perm second) :
    (first.mergeSort fun one other => (compare (keyOf one) (keyOf other)).isLE) =
      second.mergeSort fun one other => (compare (keyOf one) (keyOf other)).isLE := by
  have sorted := pairwise_lt_mergeSort_key keyOf distinct
  have sortedSecond := pairwise_lt_mergeSort_key keyOf ((reordered.map keyOf).nodup_iff.mp distinct)
  refine List.Perm.eq_of_pairwise (fun one other _ _ before after => ?_) sorted sortedSecond
    ((List.mergeSort_perm _ _).trans (reordered.trans (List.mergeSort_perm _ _).symm))
  rw [Std.OrientedCmp.gt_of_lt before] at after
  cases after

end Sorting

/-- What has a place after one more entry had it before, or is that entry. -/
theorem held_of_concat {α : Type} {list : List α} {last value : α} {place : Nat}
    (held : (list ++ [last])[place]? = some value) :
    place < list.length ∧ list[place]? = some value ∨ place = list.length ∧ value = last := by
  by_cases earlier : place < list.length
  · rw [List.getElem?_append_left earlier] at held
    exact .inl ⟨earlier, held⟩
  · rw [List.getElem?_append_right (Nat.le_of_not_lt earlier)] at held
    have single := (List.getElem?_eq_some_iff.mp held).1
    rw [List.length_singleton] at single
    exact .inr ⟨by omega, List.mem_singleton.mp (List.mem_of_getElem? held)⟩

end TextIndex
