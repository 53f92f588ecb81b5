import TextIndex.Proofs.KeyedLists
import TextIndex.Proofs.Totals

/-!
# Totals over maps

The entries of a map may be counted key by key, over any list that names each of its keys once. So a
change under one key changes the total by what it changes there.

* `total_toList`: counting key by key.
* `total_toList_alter`: what a change under one key comes to.
* `total_toList_foldl_alter`: what a list of changes comes to, if each adds something of its own.
-/

namespace TextIndex

open TextIndex.Number

variable {κ ν : Type} [Ord κ] [Std.TransOrd κ] [Std.LawfulEqOrd κ] (measure : κ → ν → Nat)

/-- Entries are counted over any list that names each key once. -/
theorem total_toList (map : Std.ExtTreeMap κ ν) {keys : List κ} (distinct : keys.Nodup)
    (covers : ∀ key, map[key]?.isSome → key ∈ keys) :
    total (map.toList.map fun entry => measure entry.1 entry.2) =
      total (keys.map fun key => map[key]?.elim 0 (measure key)) := by
  have ofEntry : ∀ entry ∈ map.toList,
      measure entry.1 entry.2 = map[entry.1]?.elim 0 (measure entry.1) := by
    intro entry member
    rw [Std.ExtTreeMap.mem_toList_iff_getElem?_eq_some.mp member, Option.elim_some]
  have named : (keys.filter fun key => map[key]?.isSome).Perm (map.toList.map Prod.fst) := by
    refine (List.perm_ext_iff_of_nodup (distinct.filter _)
      (nodup_map_fst_toList map)).mpr fun key => ?_
    rw [List.mem_filter, Std.ExtTreeMap.map_fst_toList_eq_keys, Std.ExtTreeMap.mem_keys,
      Std.ExtTreeMap.mem_iff_isSome_getElem?]
    exact ⟨And.right, fun held => ⟨covers key held, held⟩⟩
  have counted := @total_filter _ (fun key => map[key]?.isSome)
    (fun key => map[key]?.elim 0 (measure key)) keys fun key _ absent => by
      rw [Option.isSome_eq_false_iff, Option.isNone_iff_eq_none] at absent
      rw [absent, Option.elim_none]
  rw [List.map_congr_left ofEntry, ← counted, total_perm (named.map _), List.map_map]
  rfl

variable [DecidableEq κ]

/-- A change under one key changes what is counted there and nothing else. -/
theorem total_toList_alter (map : Std.ExtTreeMap κ ν) (own : κ) (change : Option ν → Option ν) :
    total ((map.alter own change).toList.map fun entry => measure entry.1 entry.2) +
        map[own]?.elim 0 (measure own) =
      total (map.toList.map fun entry => measure entry.1 entry.2) +
        (change map[own]?).elim 0 (measure own) := by
  let others := map.keys.filter fun key => key ≠ own
  have distinct : (own :: others).Nodup :=
    List.nodup_cons.mpr ⟨by simp [others], Std.ExtTreeMap.nodup_keys.filter _⟩
  have covers (key : κ) (held : map[key]?.isSome) : key ∈ own :: others := by
    by_cases same : key = own
    · exact same ▸ List.mem_cons_self
    · refine List.mem_cons_of_mem _ (List.mem_filter.mpr ⟨?_, by simpa using same⟩)
      exact Std.ExtTreeMap.mem_keys.mpr (Std.ExtTreeMap.mem_iff_isSome_getElem?.mpr held)
  have altered (key : κ) : (map.alter own change)[key]? =
      if own = key then change map[own]? else map[key]? := by
    rw [Std.ExtTreeMap.getElem?_alter]
    simp only [Std.LawfulEqCmp.compare_eq_iff_eq]
  have coversAltered (key : κ) (held : (map.alter own change)[key]?.isSome) :
      key ∈ own :: others := by
    by_cases same : own = key
    · exact same ▸ List.mem_cons_self
    · rw [altered, if_neg same] at held
      exact covers key held
  have elsewhere : others.map (fun key => (map.alter own change)[key]?.elim 0 (measure key)) =
      others.map fun key => map[key]?.elim 0 (measure key) := by
    refine List.map_congr_left fun key member => ?_
    have other : key ≠ own := by simpa using (List.mem_filter.mp member).2
    rw [altered, if_neg other.symm]
  rw [total_toList measure _ distinct coversAltered, total_toList measure map distinct covers,
    List.map_cons, List.map_cons, total_cons, total_cons, elsewhere, altered,
    if_pos rfl]
  omega

/-- Changes that each add something to what is counted under its key add up. -/
theorem total_toList_foldl_alter {ε : Type} (keyOf : ε → κ) (change : ε → Option ν → Option ν)
    (added : ε → Nat) (adds : ∀ entry held, (change entry held).elim 0 (measure (keyOf entry)) =
      held.elim 0 (measure (keyOf entry)) + added entry)
    (entries : List ε) (map : Std.ExtTreeMap κ ν) :
    total ((entries.foldl (fun map entry => map.alter (keyOf entry) (change entry)) map).toList.map
        fun entry => measure entry.1 entry.2) =
      total (map.toList.map fun entry => measure entry.1 entry.2) + total (entries.map added) := by
  induction entries generalizing map with
  | nil => rfl
  | cons first rest ih =>
    have changed := total_toList_alter measure map (keyOf first) (change first)
    rw [adds] at changed
    rw [List.foldl_cons, ih, List.map_cons, total_cons]
    omega

end TextIndex
