import TextIndex.Index.Snapshot

/-!
# Reading a snapshot

What can be seen in a snapshot: the external ids of its documents, their stored fields, and the
occurrences of a term. Hidden documents never show.

* `Snapshot.visibleIds`: the external ids of the visible documents.
* `Snapshot.document?`: the stored fields of a document.
* `Snapshot.termMatches`: the visible occurrences of a term.
-/

namespace TextIndex

/-- A visible document that holds a term. -/
structure TermMatch where
  id : String
  segment : Nat
  doc : Nat
  frequency : UInt32
  fieldLength : UInt32
deriving DecidableEq, Repr

namespace SegmentView

/-- The visible occurrences of a term in a field. -/
def termMatches (view : SegmentView) (field term : String) : List TermMatch :=
  ((view.segment.postings? field term).getD #[]).toList.filterMap fun posting =>
    if view.isHidden posting.doc then none
    else (view.segment.externalId? posting.doc).map fun id =>
      ⟨id, view.id, posting.doc, posting.frequency, posting.fieldLength⟩

/-- The external ids of the visible documents. -/
def visibleIds (view : SegmentView) : List String :=
  view.visible.filterMap view.segment.externalId?

end SegmentView

namespace Snapshot

/-- The external ids of the visible documents in ascending order. -/
def visibleIds (snapshot : Snapshot) : List String :=
  (snapshot.segments.flatMap (·.visibleIds)).mergeSort fun first second =>
    (compare first second).isLE

/-- The stored fields of the visible document with an external id. -/
def document? (snapshot : Snapshot) (id : String) : Option (List Field) :=
  match snapshot.locations id with
  | [] => none
  | (segment, doc) :: _ =>
    (snapshot.segments.find? (·.id == segment)).bind fun view => view.segment.storedFields? doc

/-- The visible occurrences of a term in a field. -/
def termMatches (snapshot : Snapshot) (field term : String) : List TermMatch :=
  snapshot.segments.flatMap (·.termMatches field term)

end Snapshot

end TextIndex
