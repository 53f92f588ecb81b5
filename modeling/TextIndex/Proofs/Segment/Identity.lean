import Mathlib.Data.List.Nodup
import TextIndex.Proofs.Segment.Table

/-!
# Finding documents by their external ids

A segment finds a document through the postings of its identity field. If every document was
analyzed with an identity field of its own, which holds the external id as its one term, then these
postings lead to the documents with that id and to no others.

* `AnalyzedDocument.Identified`: that the identity field is as it should be.
* `Segment.Sound`: that a segment finds its documents by their external ids, which are distinct.
* `Segment.mem_docNumbers`: the documents found for given external ids.
* `Segment.sound_ofAnalyzed`: the segment of identified documents is sound.
-/

namespace TextIndex

open TextIndex.Number

/-- The one term of the identity field is the external id, and no other field shares its name. -/
def AnalyzedDocument.Identified (analyzed : AnalyzedDocument) : Prop :=
  ∃ summary use, analyzed.byField[identityName]? = some summary ∧
    summary.terms.toList = [(analyzed.id, use)]

/-- So only the external id has a posting in the identity field. -/
theorem AnalyzedDocument.Identified.isSome_posting? {analyzed : AnalyzedDocument}
    (identified : analyzed.Identified) {id : String} (doc : Nat) :
    (analyzed.posting? identityName id doc).isSome ↔ analyzed.id = id := by
  obtain ⟨summary, use, held, single⟩ := identified
  unfold posting?
  rw [held, Option.bind_some, Option.isSome_map, Option.isSome_iff_exists]
  have listed (other : TermUse) :
      summary.terms.get? id = some other ↔ (id, other) ∈ summary.terms.toList :=
    Std.ExtTreeMap.mem_toList_iff_getElem?_eq_some.symm
  simp only [listed, single, List.mem_singleton, Prod.mk.injEq, exists_and_left, exists_eq,
    and_true]
  exact eq_comm

/-- A set with one element, as a list. -/
theorem toList_eq_singleton {set : Std.ExtTreeSet Nat} {element : Nat}
    (only : ∀ other, other ∈ set ↔ other = element) : set.toList = [element] := by
  rw [← List.perm_singleton,
    List.perm_ext_iff_of_nodup (nodup_toList set) (List.nodup_singleton _)]
  intro other
  rw [Std.ExtTreeSet.mem_toList, only, List.mem_singleton]

namespace Segment

/-- The documents that a term of the identity field leads to. -/
def identityDocs (segment : Segment) (id : String) : List Nat :=
  ((segment.postings? identityName id).getD #[]).toList.map (·.doc)

/-- The postings of the identity field lead to the documents with the external id. -/
def FindsIds (segment : Segment) : Prop :=
  ∀ id, segment.identityDocs id =
    (List.range segment.docCount).filter fun doc => segment.externalId? doc = some id

/-- A segment that holds identified documents finds them. -/
theorem Tabulates.findsIds {segment : Segment} {documents : List AnalyzedDocument}
    (tabulates : segment.Tabulates documents)
    (identified : ∀ analyzed ∈ documents, analyzed.Identified) : segment.FindsIds := by
  intro id
  show (segment.postingsOf identityName id).map (·.doc) = _
  rw [tabulates.postings, tabulates.docCount, List.map_filterMap, ← List.filterMap_eq_filter]
  refine List.filterMap_congr fun doc _ => ?_
  simp only [Option.guard, tabulates.externalId?]
  cases held : documents[doc]? with
  | none => simp
  | some analyzed =>
    have isIdentified := identified analyzed (List.mem_of_getElem? held)
    by_cases own : analyzed.id = id
    · obtain ⟨posting, posted⟩ :=
        Option.isSome_iff_exists.mp ((isIdentified.isSome_posting? doc).mpr own)
      simp [posted, own, AnalyzedDocument.doc_of_posting? posted]
    · have nothing : analyzed.posting? identityName id doc = none :=
        Option.not_isSome_iff_eq_none.mp fun listed =>
          own ((isIdentified.isSome_posting? doc).mp listed)
      simp [nothing, own]

/-! ### Looking for given external ids -/

theorem mem_identityDocs {segment : Segment} (finds : segment.FindsIds) {id : String} {doc : Nat} :
    doc ∈ segment.identityDocs id ↔ segment.externalId? doc = some id := by
  rw [finds id, List.mem_filter, List.mem_range, decide_eq_true_eq, and_iff_right_iff_imp]
  exact fun found => (Array.getElem?_eq_some_iff.mp found).1

/-- Looking for external ids adds up what the postings of each lead to. -/
theorem docNumbers_eq_foldl (segment : Segment) (ids : List String) :
    segment.docNumbers ids =
      ids.foldl (fun found id => found.insertMany (segment.identityDocs id)) ∅ := by
  unfold docNumbers identityDocs
  congr 1
  funext found id
  cases segment.postings? identityName id with
  | none => exact Std.ExtTreeSet.insertMany_nil.symm
  | some postings => rfl

/-- The documents found for given external ids are those that have one of them. -/
theorem mem_docNumbers {segment : Segment} (finds : segment.FindsIds) {ids : List String}
    {doc : Nat} : doc ∈ segment.docNumbers ids ↔ ∃ id ∈ ids, segment.externalId? doc = some id := by
  have general : ∀ found : Std.ExtTreeSet Nat,
      doc ∈ ids.foldl (fun found id => found.insertMany (segment.identityDocs id)) found ↔
        doc ∈ found ∨ ∃ id ∈ ids, segment.externalId? doc = some id := by
    induction ids with
    | nil => simp
    | cons id rest ih =>
      intro found
      rw [List.foldl_cons, ih, Std.ExtTreeSet.mem_insertMany_list, List.contains_iff_mem,
        mem_identityDocs finds, List.exists_mem_cons_iff, or_assoc]
  rw [docNumbers_eq_foldl, general]
  simp

/-! ### The segment of given documents -/

/-- A segment finds its documents by their external ids, which are distinct. -/
structure Sound (segment : Segment) : Prop where
  finds : segment.FindsIds
  distinct : segment.ids.toList.Nodup

/-- **The segment of identified documents with distinct external ids is sound.** -/
theorem sound_ofAnalyzed {documents : List AnalyzedDocument}
    (identified : ∀ analyzed ∈ documents, analyzed.Identified)
    (distinct : (documents.map (·.id)).Nodup) : (ofAnalyzed documents).Sound where
  finds := (tabulates_ofAnalyzed documents).findsIds fun _ member =>
    identified _ (mem_inOrder.mp member)
  distinct := by
    rw [(tabulates_ofAnalyzed documents).ids]
    exact ((List.mergeSort_perm documents _).map _).nodup_iff.mpr distinct

theorem Sound.eq_of_externalId? {segment : Segment} (sound : segment.Sound) {first second : Nat}
    {id : String} (firstId : segment.externalId? first = some id)
    (secondId : segment.externalId? second = some id) : first = second := by
  unfold externalId? at firstId secondId
  rw [← Array.getElem?_toList] at firstId secondId
  exact (List.getElem?_inj (List.getElem?_eq_some_iff.mp firstId).1 sound.distinct).mp
    (firstId.trans secondId.symm)

/-! ### Looking for one external id -/

theorem Sound.toList_docNumbers {segment : Segment} (sound : segment.Sound) {id : String}
    {doc : Nat} (found : segment.externalId? doc = some id) :
    (segment.docNumbers [id]).toList = [doc] := by
  refine toList_eq_singleton fun other => ?_
  rw [mem_docNumbers sound.finds]
  constructor
  · rintro ⟨key, member, otherFound⟩
    rw [List.mem_singleton.mp member] at otherFound
    exact sound.eq_of_externalId? otherFound found
  · rintro rfl
    exact ⟨id, List.mem_singleton_self id, found⟩

/-- A document that a segment does not have is not found. -/
theorem FindsIds.docNumbers_eq_empty {segment : Segment} (finds : segment.FindsIds)
    {ids : List String} (absent : ∀ id ∈ ids, ∀ doc, segment.externalId? doc ≠ some id) :
    segment.docNumbers ids = ∅ := by
  refine Std.ExtTreeSet.ext_mem fun doc => ?_
  rw [mem_docNumbers finds]
  constructor
  · rintro ⟨id, member, found⟩
    exact absurd found (absent id member doc)
  · intro member
    exact absurd member Std.ExtTreeSet.not_mem_empty

theorem lt_docCount_of_externalId? {segment : Segment} {doc : Nat} {id : String}
    (found : segment.externalId? doc = some id) : doc < segment.docCount :=
  (Array.getElem?_eq_some_iff.mp found).1

/-- The fields kept of the document with an external id. -/
def documentOf? (segment : Segment) (id : String) : Option (List Field) :=
  (segment.docNumbers [id]).toList.head?.bind segment.storedFields?

/-- Every document of a segment has one of the external ids of its documents. -/
theorem exists_of_externalId?_ofAnalyzed {documents : List AnalyzedDocument} {doc : Nat}
    {id : String} (found : (ofAnalyzed documents).externalId? doc = some id) :
    ∃ analyzed ∈ documents, analyzed.id = id := by
  rw [(tabulates_ofAnalyzed documents).externalId?] at found
  obtain ⟨analyzed, atDoc, same⟩ := Option.map_eq_some_iff.mp found
  exact ⟨analyzed, mem_inOrder.mp (List.mem_of_getElem? atDoc), same⟩

/-- Every document that a segment is made of has a number in it. -/
theorem exists_doc_ofAnalyzed {documents : List AnalyzedDocument} {analyzed : AnalyzedDocument}
    (member : analyzed ∈ documents) :
    ∃ doc, (ofAnalyzed documents).externalId? doc = some analyzed.id ∧
      (ofAnalyzed documents).storedFields? doc = some analyzed.storedFields := by
  obtain ⟨doc, atDoc⟩ := List.mem_iff_getElem?.mp (mem_inOrder.mpr member)
  refine ⟨doc, ?_, ?_⟩
  · rw [(tabulates_ofAnalyzed documents).externalId?, atDoc, Option.map_some]
  · rw [(tabulates_ofAnalyzed documents).storedFields?, atDoc, Option.map_some]

end Segment

end TextIndex
