import TextIndex.Index.Segment

/-!
# Snapshots

A snapshot is one state of the index: segments in ascending order of their numbers, each with the
documents that are hidden in it, and the key-value pairs of the index's own metadata. A snapshot
never changes. The next one is made by introducing what a batch does.

* `Snapshot.introduce`: the next snapshot and what was done to get it.
* `Snapshot.locations`: where a document is visible.
-/

namespace TextIndex

open TextIndex.Number

/-- A segment as one snapshot shows it. -/
structure SegmentView where
  /-- The number of the segment. -/
  id : Nat
  segment : Segment
  /-- The documents that are no longer visible. -/
  hidden : Std.ExtTreeSet Nat
deriving DecidableEq

namespace SegmentView

def isHidden (view : SegmentView) (doc : Nat) : Bool :=
  view.hidden.contains doc

/-- The number of visible documents: those of the segment less the hidden ones, as a word. Documents
may be hidden that the segment does not have, and then the word wraps. -/
def visibleCount (view : SegmentView) : UInt64 :=
  UInt64.ofNat view.segment.docCount - UInt64.ofNat view.hidden.size

def visible (view : SegmentView) : List Nat :=
  (List.range view.segment.docCount).filter fun doc => !view.isHidden doc

/-- The visible documents with one of the given external ids. -/
def visibleNumbers (view : SegmentView) (ids : List String) : Std.ExtTreeSet Nat :=
  view.segment.docNumbers ids \ view.hidden

/-- The segment with further documents hidden. -/
def hide (view : SegmentView) (docs : Std.ExtTreeSet Nat) : SegmentView :=
  { view with hidden := view.hidden ∪ docs }

end SegmentView

/-- A key or a value of the metadata. -/
abbrev Bytes := List UInt8

/-- Changes of the metadata: a value is set and none is removed. -/
abbrev MetadataEdits := Std.ExtTreeMap Bytes (Option Bytes)

/-- What a batch does to the index. -/
structure Introduction where
  /-- The new documents. -/
  segment : Segment
  /-- The external ids of all documents that are replaced or deleted. -/
  touched : List String
  /-- The documents that become hidden, for each segment that was looked at before. -/
  obsoletes : Std.ExtTreeMap Nat (Std.ExtTreeSet Nat)
  metadata : MetadataEdits
deriving DecidableEq

/-- What an introduction came to. -/
structure IntroductionReport where
  /-- The segments that had to be looked through for documents to hide. -/
  recomputed : Nat
  /-- The documents that became hidden. -/
  obsoleted : Nat
deriving DecidableEq, Repr

/-- One state of the index. -/
structure Snapshot where
  version : Nat
  segments : List SegmentView
  metadata : Std.ExtTreeMap Bytes Bytes
deriving DecidableEq

namespace Snapshot

/-- The state of an index that was just opened. -/
def empty : Snapshot := ⟨0, [], ∅⟩

instance : Inhabited Snapshot := ⟨empty⟩

def metadata? (snapshot : Snapshot) (key : Bytes) : Option Bytes :=
  snapshot.metadata[key]?

/-- The number of visible documents, as a word. -/
def docCount (snapshot : Snapshot) : UInt64 :=
  UInt64.ofNat (total (snapshot.segments.map (·.visibleCount.toNat)))

/-- Where a document is visible: segment numbers and document numbers. -/
def locations (snapshot : Snapshot) (id : String) : List (Nat × Nat) :=
  snapshot.segments.flatMap fun view =>
    (view.visibleNumbers [id]).toList.map fun doc => (view.id, doc)

end Snapshot

namespace Introduction

/-- The documents that an introduction hides in a segment: the ones named beforehand if the segment
was looked at, and otherwise those found by looking now. -/
def hides (introduction : Introduction) (view : SegmentView) : Std.ExtTreeSet Nat :=
  match introduction.obsoletes[view.id]? with
  | some docs => docs
  | none => if introduction.touched = [] then ∅ else view.segment.docNumbers introduction.touched

/-- Whether a segment has to be looked through. -/
def looksThrough (introduction : Introduction) (view : SegmentView) : Bool :=
  !introduction.obsoletes.contains view.id && !introduction.touched.isEmpty

/-- What an introduction comes to on the given segments. -/
def report (introduction : Introduction) (views : List SegmentView) : IntroductionReport where
  recomputed := views.countP introduction.looksThrough
  obsoleted := total (views.map fun view => (introduction.hides view \ view.hidden).size)

end Introduction

/-- The metadata after changes. -/
def MetadataEdits.apply (edits : MetadataEdits) (metadata : Std.ExtTreeMap Bytes Bytes) :
    Std.ExtTreeMap Bytes Bytes :=
  edits.foldl
    (fun metadata key edit => match edit with
      | some value => metadata.insert key value
      | none => metadata.erase key) metadata

namespace Snapshot

/-- The segments with an introduction's documents hidden and its own segment, if it has documents,
at the end. -/
def nextSegments (snapshot : Snapshot) (id : Nat) (introduction : Introduction) :
    List SegmentView :=
  (snapshot.segments.map fun view => view.hide (introduction.hides view)) ++
    if introduction.segment.docCount = 0 then [] else [⟨id, introduction.segment, ∅⟩]

/-- Whether there is a version after this one. Versions are words of 64 bits. -/
def hasNext (snapshot : Snapshot) : Bool :=
  snapshot.version + 1 < UInt64.size

/-- The number of the last segment, if it stands in the way of a new one. -/
def blocking? (snapshot : Snapshot) (id : Nat) : Option Nat :=
  (snapshot.segments.getLast?.map (·.id)).filter (id ≤ ·)

/-- Why no segment can be introduced under a number, if none can. -/
def obstacle? (snapshot : Snapshot) (id : Nat) : Option IntroductionFault :=
  if snapshot.hasNext then (snapshot.blocking? id).map (.outOfOrder id) else some .versionsUsedUp

/-- The snapshot that follows when a segment is introduced under a number, which has to be above all
numbers used so far. -/
def introduce (snapshot : Snapshot) (id : Nat) (introduction : Introduction) :
    Except IntroductionFault (Snapshot × IntroductionReport) :=
  match snapshot.obstacle? id with
  | some fault => .error fault
  | none =>
    .ok (⟨snapshot.version + 1, snapshot.nextSegments id introduction,
      introduction.metadata.apply snapshot.metadata⟩, introduction.report snapshot.segments)

/-- The documents that become hidden in each segment when documents with the given external ids are
replaced or deleted. -/
def obsoletesOf (snapshot : Snapshot) (ids : List String) :
    Std.ExtTreeMap Nat (Std.ExtTreeSet Nat) :=
  if ids = [] then ∅
  else snapshot.segments.foldl
    (fun obsoletes view => obsoletes.insert view.id (view.segment.docNumbers ids)) ∅

end Snapshot

end TextIndex
