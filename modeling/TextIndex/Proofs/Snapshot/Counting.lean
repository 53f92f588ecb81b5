import TextIndex.Proofs.Snapshot.VisibleIds
import TextIndex.Proofs.Totals

/-!
# Counting documents

A sound snapshot hides no more documents in a segment than the segment has, so the number of visible
documents of a segment is a proper difference. Along introductions more and more documents are
hidden in a segment and none comes back. An introduction leaves as many documents visible as there
were before, with those of its own segment and without those it reports as newly hidden.

* `SegmentView.liveCount`, `Snapshot.liveCount`: the number of visible documents as a difference.
* `Snapshot.docCount_eq_liveCount`: it is the number that a snapshot gives, as a word.
* `Snapshot.Grows`: that a later snapshot lists the segments of an earlier one, with more hidden.
* `Snapshot.liveCount_splice`: the balance of an introduction.
* `Snapshot.hiddenCount_splice`: what it hides is what it reports.
-/

namespace TextIndex

open TextIndex.Number

namespace SegmentView

/-- The documents of the segment less the hidden ones. -/
def liveCount (view : SegmentView) : Nat :=
  view.segment.docCount - view.hidden.size

section Bounded

variable {view : SegmentView} (bounded : ∀ doc ∈ view.hidden, doc < view.segment.docCount)

include bounded

theorem size_hidden_le : view.hidden.size ≤ view.segment.docCount := by
  rw [← length_visible bounded]
  exact Nat.le_add_left _ _

theorem liveCount_eq : view.liveCount = view.visible.length := by
  unfold liveCount
  rw [← length_visible bounded, Nat.add_sub_cancel]

theorem visibleCount_eq_liveCount : view.visibleCount = UInt64.ofNat view.liveCount := by
  rw [visibleCount_eq bounded, length_visibleIds, liveCount_eq bounded]

end Bounded

/-- Hiding documents takes away those that were not hidden yet. -/
theorem liveCount_hide {view : SegmentView} {docs : Std.ExtTreeSet Nat}
    (bounded : ∀ doc ∈ (view.hide docs).hidden, doc < view.segment.docCount) :
    (view.hide docs).liveCount + (docs \ view.hidden).size = view.liveCount := by
  have apart : view.hidden ∪ docs = view.hidden ∪ (docs \ view.hidden) := by
    refine Std.ExtTreeSet.ext_mem fun doc => ?_
    rw [Std.ExtTreeSet.mem_union_iff, Std.ExtTreeSet.mem_union_iff, Std.ExtTreeSet.mem_diff_iff]
    by_cases hidden : doc ∈ view.hidden <;> simp [hidden]
  have sizes : (view.hidden ∪ docs).size = view.hidden.size + (docs \ view.hidden).size := by
    rw [apart]
    exact Std.ExtTreeSet.size_union_of_not_mem fun doc hidden new =>
      (Std.ExtTreeSet.mem_diff_iff.mp new).2 hidden
  have fits : (view.hidden ∪ docs).size ≤ view.segment.docCount :=
    @size_hidden_le (view.hide docs) bounded
  show view.segment.docCount - (view.hidden ∪ docs).size + _ = view.segment.docCount - _
  omega

end SegmentView

namespace Snapshot

/-- The documents of all segments less the hidden ones. -/
def liveCount (snapshot : Snapshot) : Nat :=
  total (snapshot.segments.map (·.liveCount))

theorem Sound.liveCount_eq {snapshot : Snapshot} (sound : snapshot.Sound) :
    snapshot.liveCount = snapshot.visibleIds.length := by
  unfold liveCount
  rw [length_visibleIds]
  congr 1
  refine List.map_congr_left fun view member => ?_
  rw [SegmentView.liveCount_eq (sound.hidden view member), SegmentView.length_visibleIds]

/-- The number of visible documents never wraps below zero. -/
theorem Sound.docCount_eq_liveCount {snapshot : Snapshot} (sound : snapshot.Sound) :
    snapshot.docCount = UInt64.ofNat snapshot.liveCount := by
  rw [docCount_eq sound, sound.liveCount_eq]

/-- Hiding documents in all segments takes away those that were visible. -/
theorem total_liveCount_hide {touched : List String} {views : List SegmentView}
    (bounded : ∀ view ∈ views, ∀ doc ∈ (view.hide (view.segment.docNumbers touched)).hidden,
      doc < view.segment.docCount) :
    total ((views.map fun view => view.hide (view.segment.docNumbers touched)).map (·.liveCount)) +
        total (views.map fun view => (view.visibleNumbers touched).size) =
      total (views.map (·.liveCount)) := by
  induction views with
  | nil => rfl
  | cons view rest ih =>
    rw [List.forall_mem_cons] at bounded
    have first : (view.hide (view.segment.docNumbers touched)).liveCount +
        (view.visibleNumbers touched).size = view.liveCount :=
      SegmentView.liveCount_hide bounded.1
    have others := ih bounded.2
    simp only [List.map_cons, total_cons]
    omega

/-- All documents of a new segment are visible. -/
theorem total_liveCount_added (introduction : Introduction) (id : Nat) :
    total (((introduction.added id).map fun entry =>
      (⟨entry.1, entry.2, ∅⟩ : SegmentView)).map (·.liveCount)) =
        introduction.segment.docCount := by
  unfold Introduction.added
  split
  · next absent => exact absent.symm
  · show introduction.segment.docCount - (∅ : Std.ExtTreeSet Nat).size + 0 = _
    rw [Std.ExtTreeSet.size_empty]
    rfl

/-- **An introduction keeps the balance**: the visible documents afterwards and those it hides are
the visible documents before and those of its own segment. -/
theorem Sound.liveCount_splice {snapshot : Snapshot} (sound : snapshot.Sound) {id : Nat}
    (clear : snapshot.blocking? id = none) {introduction : Introduction}
    (proper : introduction.Proper) :
    (snapshot.splice id introduction).liveCount + snapshot.visibleOf introduction.touched =
      snapshot.liveCount + introduction.segment.docCount := by
  have older := total_liveCount_hide fun view member =>
    (sound.splice clear proper).hidden _ (List.mem_append_left _ (List.mem_map_of_mem member))
  have own := total_liveCount_added introduction id
  unfold liveCount visibleOf Snapshot.splice
  rw [List.map_append, total_append, own]
  omega

/-! ### What becomes hidden -/

/-- The documents of all segments, visible or not. -/
def totalCount (snapshot : Snapshot) : Nat :=
  total (snapshot.segments.map (·.segment.docCount))

/-- The documents that are hidden in all segments. -/
def hiddenCount (snapshot : Snapshot) : Nat :=
  total (snapshot.segments.map (·.hidden.size))

theorem Sound.hiddenCount_add_liveCount {snapshot : Snapshot} (sound : snapshot.Sound) :
    snapshot.hiddenCount + snapshot.liveCount = snapshot.totalCount := by
  unfold hiddenCount liveCount totalCount
  rw [← total_map_add]
  congr 1
  refine List.map_congr_left fun view member => ?_
  have fits := SegmentView.size_hidden_le (sound.hidden view member)
  unfold SegmentView.liveCount
  omega

theorem totalCount_eq (snapshot : Snapshot) :
    snapshot.totalCount = total (snapshot.contents.map (·.2.docCount)) := by
  unfold totalCount contents
  rw [List.map_map]
  rfl

theorem totalCount_splice (snapshot : Snapshot) (id : Nat) (introduction : Introduction) :
    (snapshot.splice id introduction).totalCount =
      snapshot.totalCount + introduction.segment.docCount := by
  rw [totalCount_eq, totalCount_eq, contents_splice, List.map_append, total_append]
  congr 1
  unfold Introduction.added
  split
  · next absent => exact absent.symm
  · rfl

/-- **An introduction hides as many documents as were visible and are touched.** -/
theorem Sound.hiddenCount_splice {snapshot : Snapshot} (sound : snapshot.Sound) {id : Nat}
    (clear : snapshot.blocking? id = none) {introduction : Introduction}
    (proper : introduction.Proper) :
    (snapshot.splice id introduction).hiddenCount =
      snapshot.hiddenCount + snapshot.visibleOf introduction.touched := by
  have before := sound.hiddenCount_add_liveCount
  have after := (sound.splice clear proper).hiddenCount_add_liveCount
  have balance := sound.liveCount_splice clear proper
  rw [totalCount_splice] at after
  omega

/-! ### What stays hidden -/

end Snapshot

/-- The later view shows the same segment, with no fewer documents hidden. -/
structure SegmentView.Covers (view later : SegmentView) : Prop where
  id : later.id = view.id
  segment : later.segment = view.segment
  hidden : ∀ doc ∈ view.hidden, doc ∈ later.hidden

namespace Snapshot

/-- The later snapshot lists what the earlier one lists, in the same places, and hides no fewer
documents in it. -/
def Grows (early late : Snapshot) : Prop :=
  ∀ (place : Nat) (view : SegmentView), early.segments[place]? = some view →
    ∃ later, late.segments[place]? = some later ∧ view.Covers later

/-- **What is hidden stays hidden**, however many introductions follow. -/
theorem Evolves.grows {early late : Snapshot} (evolves : Evolves early late) :
    early.Grows late := by
  induction evolves with
  | refl => exact fun place view held => ⟨view, held, rfl, rfl, fun _ hidden => hidden⟩
  | @introduce second third id introduction report before introduced ih =>
    intro place view held
    obtain ⟨later, laterHeld, same, kept, covered⟩ := ih place view held
    obtain ⟨_, rfl, _⟩ := introduce_eq_ok introduced
    have hidden : (second.next id introduction).segments[place]? =
        some (later.hide (introduction.hides later)) := by
      show (second.segments.map _ ++ _)[place]? = _
      have shown : (second.segments.map fun view => view.hide (introduction.hides view))[place]? =
          some (later.hide (introduction.hides later)) := by
        rw [List.getElem?_map, laterHeld]
        rfl
      rw [List.getElem?_append_left (List.getElem?_eq_some_iff.mp shown).1, shown]
    exact ⟨_, hidden, same, kept, fun doc wasHidden =>
      Std.ExtTreeSet.mem_union_iff.mpr (.inl (covered doc wasHidden))⟩

end Snapshot

end TextIndex
