import Mathlib.Data.List.Count
import TextIndex.Proofs.Snapshot.Visibility

/-!
# The visible external ids

The list of the visible external ids has every id as often as there are places where a document is
visible under it. The number of visible documents, which is counted as documents less hidden ones,
is the length of that list.

* `Snapshot.count_visibleIds`: how often an external id is listed.
* `Snapshot.docCount_eq`: the number of visible documents.
* `Snapshot.visibleIds_eq_keys`: with one place at most for each external id, the list is the sorted
  list of the ids that have one.
-/

namespace TextIndex

open TextIndex.Number

namespace SegmentView

theorem mem_visible {view : SegmentView} {doc : Nat} :
    doc ∈ view.visible ↔ doc < view.segment.docCount ∧ doc ∉ view.hidden := by
  unfold visible isHidden
  rw [List.mem_filter, List.mem_range, Bool.not_eq_true', ← Bool.not_eq_true,
    Std.ExtTreeSet.contains_iff_mem]

/-- An external id is listed once for each visible document that has it. -/
theorem count_visibleIds {view : SegmentView} (finds : view.segment.FindsIds) (id : String) :
    view.visibleIds.count id = (view.visibleNumbers [id]).toList.length := by
  unfold visibleIds
  rw [List.count_filterMap, List.countP_eq_length_filter]
  refine List.Perm.length_eq ?_
  have nodupVisible : view.visible.Nodup := List.nodup_range.filter _
  rw [List.perm_ext_iff_of_nodup (nodupVisible.filter _) (nodup_toList _)]
  intro doc
  rw [List.mem_filter, mem_visible, Std.ExtTreeSet.mem_toList, mem_visibleNumbers finds, beq_iff_eq]
  constructor
  · rintro ⟨⟨_, visible⟩, found⟩
    exact ⟨found, visible⟩
  · rintro ⟨found, visible⟩
    exact ⟨⟨Segment.lt_docCount_of_externalId? found, visible⟩, found⟩

/-- Every visible document has an external id. -/
theorem length_visibleIds (view : SegmentView) : view.visibleIds.length = view.visible.length := by
  unfold visibleIds
  rw [List.length_filterMap_eq_countP, List.countP_eq_length]
  intro doc member
  show (view.segment.ids[doc]?).isSome
  rw [Array.getElem?_eq_getElem (mem_visible.mp member).1]
  rfl

/-- The documents are the visible ones and the hidden ones. -/
theorem length_visible {view : SegmentView}
    (bounded : ∀ doc ∈ view.hidden, doc < view.segment.docCount) :
    view.visible.length + view.hidden.size = view.segment.docCount := by
  have hiddenSize : view.hidden.size =
      ((List.range view.segment.docCount).filter fun doc => view.isHidden doc).length := by
    rw [← Std.ExtTreeSet.length_toList]
    refine List.Perm.length_eq ?_
    rw [List.perm_ext_iff_of_nodup (nodup_toList _) (List.nodup_range.filter _)]
    intro doc
    rw [Std.ExtTreeSet.mem_toList, List.mem_filter, List.mem_range]
    show _ ↔ _ ∧ view.hidden.contains doc = true
    rw [Std.ExtTreeSet.contains_iff_mem, and_iff_right_of_imp (bounded doc)]
  rw [hiddenSize]
  unfold visible
  have split := List.length_eq_length_filter_add (l := List.range view.segment.docCount)
    fun doc => view.isHidden doc
  rw [List.length_range] at split
  omega

theorem visibleCount_eq {view : SegmentView}
    (bounded : ∀ doc ∈ view.hidden, doc < view.segment.docCount) :
    view.visibleCount = UInt64.ofNat view.visibleIds.length := by
  have all := length_visible bounded
  rw [length_visibleIds]
  unfold visibleCount
  rw [← all, UInt64.ofNat_add, UInt64.add_sub_cancel]

end SegmentView

namespace Snapshot

theorem visibleIds_perm (snapshot : Snapshot) :
    snapshot.visibleIds.Perm (snapshot.segments.flatMap (·.visibleIds)) :=
  List.mergeSort_perm _ _

/-- An external id is listed once for each place where a document is visible under it. -/
theorem count_visibleIds {snapshot : Snapshot} (sound : snapshot.Sound) (id : String) :
    snapshot.visibleIds.count id = (snapshot.locations id).length := by
  rw [snapshot.visibleIds_perm.count_eq]
  unfold locations
  rw [List.count_flatMap, List.length_flatMap]
  congr 1
  refine List.map_congr_left fun view member => ?_
  rw [List.length_map]
  exact SegmentView.count_visibleIds (sound.segments view member).finds id

/-- The visible documents of all segments. -/
theorem length_visibleIds (snapshot : Snapshot) :
    snapshot.visibleIds.length = total (snapshot.segments.map (·.visibleIds.length)) := by
  rw [snapshot.visibleIds_perm.length_eq]
  induction snapshot.segments with
  | nil => rfl
  | cons view rest ih =>
    rw [List.flatMap_cons, List.length_append, ih]
    rfl

/-- The number of visible documents, as a word. -/
theorem docCount_eq {snapshot : Snapshot} (sound : snapshot.Sound) :
    snapshot.docCount = UInt64.ofNat snapshot.visibleIds.length := by
  have general : ∀ views : List SegmentView,
      (∀ view ∈ views, ∀ doc ∈ view.hidden, doc < view.segment.docCount) →
      UInt64.ofNat (total (views.map (·.visibleCount.toNat))) =
        UInt64.ofNat (total (views.map (·.visibleIds.length))) := by
    intro views bounded
    induction views with
    | nil => rfl
    | cons view rest ih =>
      rw [List.forall_mem_cons] at bounded
      simp only [List.map_cons, total_cons]
      rw [UInt64.ofNat_add, UInt64.ofNat_add, ih bounded.2, UInt64.ofNat_toNat,
        SegmentView.visibleCount_eq bounded.1]
  rw [length_visibleIds]
  exact general snapshot.segments sound.hidden

/-- With one place at most for every external id, none is listed twice. -/
theorem nodup_visibleIds {snapshot : Snapshot} (sound : snapshot.Sound)
    (once : ∀ key, (snapshot.locations key).length ≤ 1) : snapshot.visibleIds.Nodup := by
  refine List.nodup_iff_count_le_one.mpr fun key => ?_
  rw [count_visibleIds sound]
  exact once key

/-- If every external id of a map has one place and every other none, the visible external ids are
those of the map in ascending order. -/
theorem visibleIds_eq_keys {ν : Type} {snapshot : Snapshot} (sound : snapshot.Sound)
    (map : Std.ExtTreeMap String ν)
    (placed : ∀ id, (snapshot.locations id).length = if id ∈ map then 1 else 0) :
    snapshot.visibleIds = map.keys := by
  have counts : ∀ id, snapshot.visibleIds.count id = map.keys.count id := by
    intro id
    rw [count_visibleIds sound, placed]
    split
    · next member =>
      exact (List.count_eq_one_of_mem Std.ExtTreeMap.nodup_keys
        (Std.ExtTreeMap.mem_keys.mpr member)).symm
    · next absent =>
      exact (List.count_eq_zero_of_not_mem fun member =>
        absent (Std.ExtTreeMap.mem_keys.mp member)).symm
  -- Both lists are sorted and have every id equally often.
  have sortedIds :
      snapshot.visibleIds.Pairwise fun first second => (compare first second).isLE :=
    pairwise_mergeSort_key id _
  have sortedKeys : map.keys.Pairwise fun first second => (compare first second).isLE :=
    Std.ExtTreeMap.ordered_keys.imp fun before => by rw [before]; rfl
  refine (List.perm_iff_count.mpr counts).eq_of_pairwise ?_ sortedIds sortedKeys
  intro first second _ _ before after
  have same : compare first second = .eq := Std.OrientedCmp.isLE_antisymm before after
  exact Std.LawfulEqCmp.eq_of_compare same

end Snapshot

end TextIndex
