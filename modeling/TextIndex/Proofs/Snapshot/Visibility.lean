import Mathlib.Data.List.Nodup
import Mathlib.Data.List.Perm.Basic
import TextIndex.Index.Reader
import TextIndex.Proofs.Segment.Identity
import TextIndex.Proofs.Snapshot.Evolution

/-!
# What a snapshot shows

In a sound snapshot every segment finds its documents by their external ids, and only documents that
a segment has are hidden in it. A proper introduction touches all external ids of its own documents,
so it hides whatever was visible under them before. Then a document is visible in one place at most:
where the last introduction that touched its external id put it.

* `Snapshot.Sound`, `Introduction.Proper`: what is asked of snapshots and introductions.
* `Snapshot.Sound.splice`: proper introductions keep snapshots sound.
* `Snapshot.locations_splice`, `Snapshot.document?_splice`: what an introduction does to the place
  and to the fields of a document.
-/

namespace TextIndex

open TextIndex.Number

/-! ### One segment -/

namespace SegmentView

theorem mem_visibleNumbers {view : SegmentView} (finds : view.segment.FindsIds) {id : String}
    {doc : Nat} : doc ∈ view.visibleNumbers [id] ↔
      view.segment.externalId? doc = some id ∧ doc ∉ view.hidden := by
  unfold visibleNumbers
  rw [Std.ExtTreeSet.mem_diff_iff, Segment.mem_docNumbers finds]
  simp only [List.mem_singleton, exists_eq_left]

/-- Hiding the documents with given external ids leaves the others as visible as they were. -/
theorem visibleNumbers_hide {view : SegmentView} (finds : view.segment.FindsIds)
    (touched : List String) (id : String) :
    (view.hide (view.segment.docNumbers touched)).visibleNumbers [id] =
      if id ∈ touched then ∅ else view.visibleNumbers [id] := by
  refine Std.ExtTreeSet.ext_mem fun doc => ?_
  rw [@mem_visibleNumbers (view.hide (view.segment.docNumbers touched)) finds]
  show _ ∧ doc ∉ view.hidden ∪ view.segment.docNumbers touched ↔ _
  rw [Std.ExtTreeSet.mem_union_iff, Segment.mem_docNumbers finds]
  split
  · next isTouched =>
    constructor
    · rintro ⟨found, visible⟩
      exact absurd (Or.inr ⟨id, isTouched, found⟩) visible
    · intro member
      exact absurd member Std.ExtTreeSet.not_mem_empty
  · next untouched =>
    rw [mem_visibleNumbers finds]
    constructor
    · rintro ⟨found, visible⟩
      exact ⟨found, fun hidden => visible (Or.inl hidden)⟩
    · rintro ⟨found, visible⟩
      refine ⟨found, ?_⟩
      rintro (hidden | ⟨other, isTouched, otherFound⟩)
      · exact visible hidden
      · rw [found, Option.some.injEq] at otherFound
        exact untouched (otherFound ▸ isTouched)

end SegmentView

/-! ### Sound snapshots and proper introductions -/

/-- An introduction touches the external ids of its own documents, which its segment finds. -/
structure Introduction.Proper (introduction : Introduction) : Prop where
  sound : introduction.segment.Sound
  touches : ∀ doc id, introduction.segment.externalId? doc = some id → id ∈ introduction.touched

namespace Snapshot

/-- The segments are in order and find their documents, and only documents that a segment has are
hidden in it. -/
structure Sound (snapshot : Snapshot) : Prop where
  ascending : snapshot.Ascending
  segments : ∀ view ∈ snapshot.segments, view.segment.Sound
  hidden : ∀ view ∈ snapshot.segments, ∀ doc ∈ view.hidden, doc < view.segment.docCount

theorem sound_empty : empty.Sound where
  ascending := ascending_empty
  segments := fun _ member => nomatch member
  hidden := fun _ member => nomatch member

/-- The segments after an introduction: the older ones with more hidden in them, and its own. -/
theorem forall_segments_splice {snapshot : Snapshot} {id : Nat} {introduction : Introduction}
    {holds : SegmentView → Prop}
    (older : ∀ view ∈ snapshot.segments,
      holds (view.hide (view.segment.docNumbers introduction.touched)))
    (own : holds ⟨id, introduction.segment, ∅⟩) :
    ∀ view ∈ (snapshot.splice id introduction).segments, holds view := by
  intro view member
  rcases List.mem_append.mp member with old | added
  · obtain ⟨before, beforeMember, rfl⟩ := List.mem_map.mp old
    exact older before beforeMember
  · obtain ⟨entry, entryMember, rfl⟩ := List.mem_map.mp added
    unfold Introduction.added at entryMember
    split at entryMember
    · cases entryMember
    · rw [List.mem_singleton.mp entryMember]
      exact own

/-- Proper introductions keep snapshots sound. -/
theorem Sound.splice {snapshot : Snapshot} (sound : snapshot.Sound) {id : Nat}
    (clear : snapshot.blocking? id = none) {introduction : Introduction}
    (proper : introduction.Proper) : (snapshot.splice id introduction).Sound where
  ascending := by
    rw [← next_obsoletesOf (Evolves.refl : Evolves snapshot snapshot) sound.ascending]
    exact sound.ascending.next clear _
  segments := forall_segments_splice (fun view member => sound.segments view member) proper.sound
  hidden := by
    refine forall_segments_splice (fun view member doc hidden => ?_)
      fun doc hidden => absurd hidden Std.ExtTreeSet.not_mem_empty
    rcases Std.ExtTreeSet.mem_union_iff.mp hidden with before | now
    · exact sound.hidden view member doc before
    · obtain ⟨_, _, found⟩ := (Segment.mem_docNumbers (sound.segments view member).finds).mp now
      exact Segment.lt_docCount_of_externalId? found

/-! ### The place of a document -/

/-- Where an introduction puts a document: nowhere, unless its segment has it. -/
theorem added_flatMap {introduction : Introduction} (proper : introduction.Proper) (id : Nat)
    (key : String) :
    ((introduction.added id).map fun entry => (⟨entry.1, entry.2, ∅⟩ : SegmentView)).flatMap
        (fun view => (view.visibleNumbers [key]).toList.map fun doc => (view.id, doc)) =
      (introduction.segment.docNumbers [key]).toList.map fun doc => (id, doc) := by
  have nothingHidden : introduction.segment.docNumbers [key] \ ∅ =
      introduction.segment.docNumbers [key] :=
    Std.ExtTreeSet.ext_mem fun doc => by simp [Std.ExtTreeSet.mem_diff_iff]
  unfold Introduction.added
  split
  · next noDocuments =>
    have absent : introduction.segment.docNumbers [key] = ∅ := by
      refine proper.sound.finds.docNumbers_eq_empty fun _ _ doc found => ?_
      have := Segment.lt_docCount_of_externalId? found
      omega
    rw [absent]
    rfl
  · rw [List.map_singleton, List.flatMap_singleton]
    unfold SegmentView.visibleNumbers
    rw [nothingHidden]

/-- After an introduction, a document that it touches is visible where its own segment has it, and
any other document where it was visible before. -/
theorem locations_splice {snapshot : Snapshot} (sound : snapshot.Sound)
    {introduction : Introduction} (proper : introduction.Proper) (id : Nat) (key : String) :
    (snapshot.splice id introduction).locations key =
      if key ∈ introduction.touched then
        (introduction.segment.docNumbers [key]).toList.map fun doc => (id, doc)
      else snapshot.locations key := by
  have older : (snapshot.segments.map fun view =>
        view.hide (view.segment.docNumbers introduction.touched)).flatMap
          (fun view => (view.visibleNumbers [key]).toList.map fun doc => (view.id, doc)) =
      if key ∈ introduction.touched then [] else snapshot.locations key := by
    unfold locations
    rw [List.flatMap_map]
    split
    · next isTouched =>
      refine List.flatMap_eq_nil_iff.mpr fun view member => ?_
      rw [SegmentView.visibleNumbers_hide (sound.segments view member).finds, if_pos isTouched]
      rfl
    · next untouched =>
      refine List.flatMap_congr fun view member => ?_
      rw [SegmentView.visibleNumbers_hide (sound.segments view member).finds, if_neg untouched]
      rfl
  show List.flatMap _ (_ ++ _) = _
  rw [List.flatMap_append, older, added_flatMap proper]
  split
  · rw [List.nil_append]
  · next untouched =>
    have absent : introduction.segment.docNumbers [key] = ∅ := by
      refine proper.sound.finds.docNumbers_eq_empty fun other member doc found => ?_
      rw [List.mem_singleton.mp member] at found
      exact untouched (proper.touches doc key found)
    rw [absent]
    exact List.append_nil _

/-! ### The fields of a document -/

/-- The segment of a number. -/
def segment? (snapshot : Snapshot) (id : Nat) : Option Segment :=
  (snapshot.contents.find? (·.1 == id)).map (·.2)

theorem segment?_eq (snapshot : Snapshot) (id : Nat) :
    snapshot.segment? id = (snapshot.segments.find? (·.id == id)).map (·.segment) := by
  unfold segment? contents
  rw [List.find?_map, Option.map_map]
  rfl

theorem document?_eq (snapshot : Snapshot) (id : String) :
    snapshot.document? id = (snapshot.locations id).head?.bind fun place =>
      (snapshot.segment? place.1).bind fun segment => segment.storedFields? place.2 := by
  unfold document?
  cases snapshot.locations id with
  | nil => rfl
  | cons place rest =>
    show _ = (snapshot.segment? place.1).bind _
    rw [segment?_eq, Option.bind_map]
    rfl

theorem contents_splice (snapshot : Snapshot) (id : Nat) (introduction : Introduction) :
    (snapshot.splice id introduction).contents = snapshot.contents ++ introduction.added id := by
  unfold contents splice
  rw [List.map_append, List.map_map, List.map_map]
  congr 1
  exact List.map_id _

/-- Only the number of the introduction is new. -/
theorem mem_segmentIds_splice {snapshot : Snapshot} {id : Nat} {introduction : Introduction}
    {listed : Nat} (member : listed ∈ (snapshot.splice id introduction).segmentIds) :
    listed ∈ snapshot.segmentIds ∨ listed = id := by
  rw [segmentIds_eq, contents_splice, List.map_append, List.mem_append, ← segmentIds_eq] at member
  refine member.imp_right fun added => ?_
  obtain ⟨entry, ofIntroduction, rfl⟩ := List.mem_map.mp added
  exact Introduction.fst_of_mem_added ofIntroduction

theorem segment?_splice_of_mem {snapshot : Snapshot} (id : Nat) (introduction : Introduction)
    {listed : Nat} (member : listed ∈ snapshot.segmentIds) :
    (snapshot.splice id introduction).segment? listed = snapshot.segment? listed := by
  obtain ⟨view, viewMember, rfl⟩ := List.mem_map.mp member
  have found : (snapshot.contents.find? (·.1 == view.id)).isSome :=
    List.find?_isSome.mpr ⟨_, List.mem_map_of_mem viewMember, by simp⟩
  unfold segment?
  rw [contents_splice, List.find?_append, Option.or_of_isSome found]

/-- The new segment has the new number, which is above the others. -/
theorem segment?_splice_self {snapshot : Snapshot} {id : Nat}
    (above : ∀ listed ∈ snapshot.segmentIds, listed < id) {introduction : Introduction}
    (documents : introduction.segment.docCount ≠ 0) :
    (snapshot.splice id introduction).segment? id = some introduction.segment := by
  have unlisted : snapshot.contents.find? (·.1 == id) = none := by
    refine List.find?_eq_none.mpr fun entry member same => ?_
    have listed : entry.1 ∈ snapshot.segmentIds := by
      rw [segmentIds_eq]
      exact List.mem_map_of_mem member
    have := above _ listed
    have := beq_iff_eq.mp same
    omega
  unfold segment?
  rw [contents_splice, List.find?_append, unlisted]
  simp [Introduction.added, documents]

/-- Where documents are visible is in listed segments. -/
theorem mem_segmentIds_of_mem_locations {snapshot : Snapshot} {id : String} {place : Nat × Nat}
    (member : place ∈ snapshot.locations id) : place.1 ∈ snapshot.segmentIds := by
  obtain ⟨view, viewMember, inView⟩ := List.mem_flatMap.mp member
  obtain ⟨doc, _, rfl⟩ := List.mem_map.mp inView
  exact List.mem_map_of_mem viewMember

/-- After an introduction, the fields of a document that it touches are those its own segment keeps,
and those of any other document are what they were. -/
theorem document?_splice {snapshot : Snapshot} (sound : snapshot.Sound) {id : Nat}
    (clear : snapshot.blocking? id = none) {introduction : Introduction}
    (proper : introduction.Proper) (key : String) :
    (snapshot.splice id introduction).document? key =
      if key ∈ introduction.touched then introduction.segment.documentOf? key
      else snapshot.document? key := by
  rw [document?_eq, locations_splice sound proper]
  by_cases isTouched : key ∈ introduction.touched
  · rw [if_pos isTouched, if_pos isTouched]
    unfold Segment.documentOf?
    cases places : (introduction.segment.docNumbers [key]).toList with
    | nil => rfl
    | cons doc rest =>
      have found : doc ∈ introduction.segment.docNumbers [key] := by
        rw [← Std.ExtTreeSet.mem_toList, places]
        exact List.mem_cons_self
      obtain ⟨_, _, ofDoc⟩ := (Segment.mem_docNumbers proper.sound.finds).mp found
      have documents : introduction.segment.docCount ≠ 0 := by
        have := Segment.lt_docCount_of_externalId? ofDoc
        omega
      rw [List.map_cons, List.head?_cons, List.head?_cons, Option.bind_some, Option.bind_some,
        segment?_splice_self (above_of_blocking?_eq_none sound.ascending clear) documents,
        Option.bind_some]
  · rw [if_neg isTouched, if_neg isTouched, document?_eq]
    refine Option.bind_congr fun place isHead => ?_
    rw [segment?_splice_of_mem _ _ (mem_segmentIds_of_mem_locations (List.mem_of_head? isHead))]

end Snapshot

end TextIndex
