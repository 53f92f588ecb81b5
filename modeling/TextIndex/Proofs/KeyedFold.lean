import TextIndex.Proofs.KeyedLists

/-!
# Folds that change one key at a time

A map is often made by going through a list, with each entry changing what the map holds under the
key of that entry. If the keys are distinct, the map then holds under each key what its one entry
made of what was there before, and under the other keys what it held at first.

* `ChangesKey`: that a step changes only the key of its entry.
* `ChangesKey.foldl`: what the map holds afterwards.
* `ChangesKey.foldl_of_mem`, `ChangesKey.foldl_of_not_mem`: the same if the keys are distinct.
* `ChangesKey.foldl_toList`: the same if the entries are those of another map.
* `ChangesKey.foldl_perm`: then their order makes no difference.
-/

namespace TextIndex

variable {κ ν ε : Type} [Ord κ] [Std.TransOrd κ]

/-- Each step changes what the map holds under the key of its entry, in the given way. -/
def ChangesKey (keyOf : ε → κ) (change : ε → Option ν → Option ν)
    (step : Std.ExtTreeMap κ ν → ε → Std.ExtTreeMap κ ν) : Prop :=
  ∀ (map : Std.ExtTreeMap κ ν) (entry : ε) (key : κ), (step map entry)[key]? =
    if compare (keyOf entry) key = .eq then change entry map[keyOf entry]? else map[key]?

namespace ChangesKey

variable {keyOf : ε → κ} {change : ε → Option ν → Option ν}
  {step : Std.ExtTreeMap κ ν → ε → Std.ExtTreeMap κ ν}

theorem self (changes : ChangesKey keyOf change step) (map : Std.ExtTreeMap κ ν) (entry : ε) :
    (step map entry)[keyOf entry]? = change entry map[keyOf entry]? := by
  rw [changes, if_pos Std.ReflCmp.compare_self]

variable [Std.LawfulEqOrd κ]

theorem of_ne (changes : ChangesKey keyOf change step) (map : Std.ExtTreeMap κ ν) {entry : ε}
    {key : κ} (other : key ≠ keyOf entry) : (step map entry)[key]? = map[key]? := by
  rw [changes, if_neg]
  exact fun same => other (Std.LawfulEqCmp.eq_of_compare same).symm

/-- A key has what its entries make of what it had, one after the other. -/
theorem foldl [DecidableEq κ] (changes : ChangesKey keyOf change step)
    (map : Std.ExtTreeMap κ ν) (entries : List ε) (key : κ) : (entries.foldl step map)[key]? =
      (entries.filter fun entry => keyOf entry = key).foldl (fun held entry => change entry held)
        map[key]? := by
  induction entries generalizing map with
  | nil => rfl
  | cons first rest ih =>
    rw [List.foldl_cons, ih]
    by_cases own : keyOf first = key
    · subst own
      rw [List.filter_cons_of_pos (by simp), List.foldl_cons, changes.self]
    · rw [List.filter_cons_of_neg (by simpa using own), changes.of_ne map (Ne.symm own)]

/-- A key without an entry keeps what it had. -/
theorem foldl_of_not_mem (changes : ChangesKey keyOf change step) (map : Std.ExtTreeMap κ ν)
    {entries : List ε} {key : κ} (without : key ∉ entries.map keyOf) :
    (entries.foldl step map)[key]? = map[key]? := by
  induction entries generalizing map with
  | nil => rfl
  | cons first rest ih =>
    rw [List.map_cons, List.mem_cons, not_or] at without
    rw [List.foldl_cons, ih _ without.2, changes.of_ne map without.1]

/-- A key with an entry has what that entry makes of what it had. -/
theorem foldl_of_mem (changes : ChangesKey keyOf change step) (map : Std.ExtTreeMap κ ν)
    {entries : List ε} (distinct : (entries.map keyOf).Nodup) {entry : ε}
    (member : entry ∈ entries) :
    (entries.foldl step map)[keyOf entry]? = change entry map[keyOf entry]? := by
  induction entries generalizing map with
  | nil => cases member
  | cons first rest ih =>
    rw [List.map_cons, List.nodup_cons] at distinct
    rw [List.foldl_cons]
    rcases List.mem_cons.mp member with rfl | later
    · rw [changes.foldl_of_not_mem _ distinct.1, changes.self]
    · have other : keyOf entry ≠ keyOf first := fun same =>
        distinct.1 (same ▸ List.mem_map_of_mem later)
      rw [ih _ distinct.2 later, changes.of_ne map other]

/-- Going through the entries of another map changes the keys that it has, each once. -/
theorem foldl_toList {edit : Type} {change : κ × edit → Option ν → Option ν}
    {step : Std.ExtTreeMap κ ν → κ × edit → Std.ExtTreeMap κ ν}
    (changes : ChangesKey Prod.fst change step) (map : Std.ExtTreeMap κ ν)
    (edits : Std.ExtTreeMap κ edit) (key : κ) : (edits.toList.foldl step map)[key]? =
      edits[key]?.elim map[key]? fun entry => change (key, entry) map[key]? := by
  cases held : edits[key]? with
  | none =>
    refine changes.foldl_of_not_mem map fun member => ?_
    rw [Std.ExtTreeMap.map_fst_toList_eq_keys, Std.ExtTreeMap.mem_keys,
      Std.ExtTreeMap.mem_iff_isSome_getElem?, held] at member
    cases member
  | some entry =>
    exact changes.foldl_of_mem map (nodup_map_fst_toList edits)
      (Std.ExtTreeMap.mem_toList_iff_getElem?_eq_some.mpr held)

/-- Entries with distinct keys may be gone through in any order. -/
theorem foldl_perm (changes : ChangesKey keyOf change step) (map : Std.ExtTreeMap κ ν)
    {first second : List ε} (distinct : (first.map keyOf).Nodup) (reordered : first.Perm second) :
    first.foldl step map = second.foldl step map := by
  have distinctSecond : (second.map keyOf).Nodup := (reordered.map keyOf).nodup_iff.mp distinct
  refine Std.ExtTreeMap.ext_getElem? fun key => ?_
  by_cases member : key ∈ first.map keyOf
  · obtain ⟨entry, isFirst, rfl⟩ := List.mem_map.mp member
    rw [changes.foldl_of_mem map distinct isFirst,
      changes.foldl_of_mem map distinctSecond (reordered.subset isFirst)]
  · have absent : key ∉ second.map keyOf := fun isSecond =>
      member ((reordered.map keyOf).symm.subset isSecond)
    rw [changes.foldl_of_not_mem map member, changes.foldl_of_not_mem map absent]

end ChangesKey

end TextIndex
