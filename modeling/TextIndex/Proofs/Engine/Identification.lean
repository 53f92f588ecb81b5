import TextIndex.Proofs.Engine.Arrival
import TextIndex.Proofs.Segment.Inversion

/-!
# External ids in a segment

In the segment of a batch that was checked, the reserved field has the external ids of the documents
as its terms and nothing else, each in one document and once. So a look-up by external ids finds the
documents that have one of them. The other fields, the composite fields and the analyzers have no
part in it.

* `Segment.Identifies`: what the reserved field of a segment tells.
* `Segment.Identifies.postings?_eq`: that it depends on the external ids only.
* `Batch.segment_identifies`: the segment of a batch that was checked.
-/

namespace TextIndex

/-- What is posted under an external id. -/
def identityPosting (withPlaces : Bool) (doc : Nat) (id : String) : Posting :=
  ⟨doc, 1, 1, if withPlaces then [⟨none, 0, 0, id.utf8ByteSize⟩] else []⟩

theorem get?_identitySummary (withPlaces : Bool) (id term : String) :
    (identitySummary withPlaces id).terms.get? term =
      if id = term then some (.ofToken withPlaces (Analyzer.wholeToken id)) else none := by
  have inserted : (identitySummary withPlaces id).terms.get? term =
      if compare id term = .eq then some (.ofToken withPlaces (Analyzer.wholeToken id))
      else none := by
    show (TermTable.ofTokens withPlaces [Analyzer.wholeToken id]).uses[term]? = _
    rw [TermTable.ofTokens_singleton, Std.ExtTreeMap.getElem?_insert,
      Std.ExtTreeMap.getElem?_empty]
    rfl
  rw [inserted]
  simp only [Std.LawfulEqCmp.compare_eq_iff_eq]

/-- A document has an identity field and nothing else under the reserved name. -/
def AnalyzedDocument.IdentifiedBy (analyzed : AnalyzedDocument) (withPlaces : Bool) : Prop :=
  analyzed.byField[identityName]? = some (identitySummary withPlaces analyzed.id)

namespace AnalyzedDocument.IdentifiedBy

variable {analyzed : AnalyzedDocument} {withPlaces : Bool}
  (identified : analyzed.IdentifiedBy withPlaces)

include identified

theorem isIdentified : analyzed.Identified :=
  ⟨_, _, identified, TermTable.toList_ofTokens_singleton withPlaces (Analyzer.wholeToken _)⟩

theorem eq_of_posting? {term : String} {doc : Nat} {posting : Posting}
    (posted : analyzed.posting? identityName term doc = some posting) :
    posting = identityPosting withPlaces doc term := by
  unfold AnalyzedDocument.posting? at posted
  rw [identified, Option.bind_some, get?_identitySummary] at posted
  split at posted
  · next own =>
    subst own
    exact (Option.some.inj posted).symm
  · cases posted

end AnalyzedDocument.IdentifiedBy

namespace Segment

/-- The external ids of a segment ascend, and the reserved field lists each of them with one
posting, of one occurrence in a field with one token. So a look-up finds the documents with the
external ids that are looked for. -/
structure Identifies (segment : Segment) (withPlaces : Bool) : Prop where
  ascending : segment.ids.toList.Pairwise fun first second => compare first second = .lt
  mem_docNumbers : ∀ ids doc, doc ∈ segment.docNumbers ids ↔
    doc < segment.docCount ∧ ∃ id ∈ ids, segment.externalId? doc = some id
  isSome_postings? : ∀ term, (segment.postings? identityName term).isSome ↔
    ∃ doc, segment.externalId? doc = some term
  postings? : ∀ doc id, segment.externalId? doc = some id →
    segment.postings? identityName id = some #[identityPosting withPlaces doc id]

theorem Sound.identityDocs_eq {segment : Segment} (sound : segment.Sound) {doc : Nat} {id : String}
    (found : segment.externalId? doc = some id) : segment.identityDocs id = [doc] := by
  have distinct : (segment.identityDocs id).Nodup := by
    rw [sound.finds id]
    exact List.nodup_range.filter _
  rw [← List.perm_singleton, List.perm_ext_iff_of_nodup distinct (List.nodup_singleton _)]
  intro other
  rw [mem_identityDocs sound.finds, List.mem_singleton]
  exact ⟨fun otherFound => sound.eq_of_externalId? otherFound found, fun same => same ▸ found⟩

/-- Documents in ascending order of their external ids are identified in their segment. -/
theorem Tabulates.identifies {segment : Segment} {documents : List AnalyzedDocument}
    {withPlaces : Bool} (tabulates : segment.Tabulates documents) (filled : segment.Filled)
    (ascending : documents.Pairwise fun first second => compare first.id second.id = .lt)
    (identified : ∀ analyzed ∈ documents, analyzed.IdentifiedBy withPlaces) :
    segment.Identifies withPlaces := by
  have finds : segment.FindsIds :=
    tabulates.findsIds fun analyzed member => (identified analyzed member).isIdentified
  have idsAscend : segment.ids.toList.Pairwise fun first second => compare first second = .lt := by
    rw [tabulates.ids]
    exact List.pairwise_map.mpr ascending
  have sound : segment.Sound := ⟨finds, idsAscend.imp fun before same => by
    simp [same] at before⟩
  refine ⟨idsAscend, fun ids doc => ?_, fun term => ?_, fun doc id found => ?_⟩
  · rw [Segment.mem_docNumbers finds]
    refine (and_iff_right_of_imp ?_).symm
    rintro ⟨id, -, found⟩
    exact lt_docCount_of_externalId? found
  · have someDoc : segment.postingsOf identityName term ≠ [] ↔ segment.identityDocs term ≠ [] :=
      not_congr List.map_eq_nil_iff.symm
    rw [← filled.postingsOf_ne_nil, someDoc]
    simp only [← mem_identityDocs finds]
    exact ⟨List.exists_mem_of_ne_nil _, fun ⟨_, member⟩ => List.ne_nil_of_mem member⟩
  · obtain ⟨posting, single, rfl⟩ := List.map_eq_singleton_iff.mp (sound.identityDocs_eq found)
    have listed : posting ∈ segment.postingsOf identityName id := by
      unfold postingsOf
      rw [single]
      exact List.mem_singleton_self posting
    obtain ⟨analyzed, atDoc, posted⟩ := tabulates.mem_postingsOf.mp listed
    rw [← (identified analyzed (List.mem_of_getElem? atDoc)).eq_of_posting? posted]
    cases held : segment.postings? identityName id with
    | none =>
      rw [held] at single
      cases single
    | some postings =>
      rw [held] at single
      exact congrArg some (Array.toList_inj.mp single)

/-- What the reserved field tells depends on nothing but the external ids and on whether places are
kept. -/
theorem Identifies.postings?_eq {first second : Segment} {withPlaces : Bool}
    (identifies : first.Identifies withPlaces) (alsoIdentifies : second.Identifies withPlaces)
    (sameIds : first.ids = second.ids) (term : String) :
    first.postings? identityName term = second.postings? identityName term := by
  have same : ∀ doc, first.externalId? doc = second.externalId? doc := by
    intro doc
    unfold externalId?
    rw [sameIds]
  by_cases has : ∃ doc, first.externalId? doc = some term
  · obtain ⟨doc, found⟩ := has
    rw [identifies.postings? doc term found, alsoIdentifies.postings? doc term (same doc ▸ found)]
  · have nothing := mt (identifies.isSome_postings? term).mp has
    simp only [same] at has
    have alsoNothing := mt (alsoIdentifies.isSome_postings? term).mp has
    rw [Option.not_isSome_iff_eq_none.mp nothing, Option.not_isSome_iff_eq_none.mp alsoNothing]

end Segment

namespace Batch

variable {batch : Batch} {config : Config}

theorem identifiedBy_analyzed (valid : batch.validate = .ok ()) :
    ∀ analyzed ∈ batch.analyzed config, analyzed.IdentifiedBy config.withPlaces := by
  intro analyzed member
  obtain ⟨document, accepted, keyed, analysis⟩ := exists_accepted_of_mem_analyzed member
  have unreserved := usesReservedName_of_validate valid (accepted?_eq_some.mp accepted).1
  exact byField_identityName keyed unreserved analysis

/-- Documents are put in ascending order of their external ids. -/
theorem pairwise_ids_putDocuments : (batch.putDocuments.map Prod.fst).Pairwise
    fun first second => compare first second = .lt := by
  have listed := batch.ids_putDocuments_sublist
  rw [Std.ExtTreeMap.map_fst_toList_eq_keys] at listed
  exact Std.ExtTreeMap.ordered_keys.sublist listed

theorem pairwise_analyzed : (batch.analyzed config).Pairwise
    fun first second => compare first.id second.id = .lt := by
  have ids : ((batch.analyzed config).map (·.id)).Pairwise
      fun first second => compare first second = .lt := by
    rw [ids_analyzed]
    exact pairwise_ids_putDocuments.sublist (List.filter_sublist.map Prod.fst)
  exact List.pairwise_map.mp ids

/-- So they are numbered in the order in which they are put, in whatever order they arrive. -/
theorem inOrder_of_arrived {documents : List AnalyzedDocument}
    (arrived : documents.Perm (batch.analyzed config)) :
    Segment.inOrder documents = batch.analyzed config := by
  have distinct := (arrived.map AnalyzedDocument.id).nodup_iff.mpr nodup_ids_analyzed
  have sorted : (batch.analyzed config).Pairwise
      fun first second => (compare first.id second.id).isLE = true :=
    pairwise_analyzed.imp fun before => by simp [before]
  exact (mergeSort_key_eq_of_perm AnalyzedDocument.id distinct arrived).trans
    (List.mergeSort_of_pairwise sorted)

theorem identifies_of_arrived (valid : batch.validate = .ok ()) {documents : List AnalyzedDocument}
    (arrived : documents.Perm (batch.analyzed config)) :
    (Segment.ofAnalyzed documents).Identifies config.withPlaces := by
  have tabulates := Segment.tabulates_ofAnalyzed documents
  rw [inOrder_of_arrived arrived] at tabulates
  exact tabulates.identifies (Segment.filled_ofAnalyzed documents) pairwise_analyzed
    (identifiedBy_analyzed valid)

/-- **Look-up by external ids is exact.** In the segment of a batch that was checked, in whatever
order its documents arrive, the external ids are those under which documents are put that can be
analyzed. They ascend, a look-up finds the documents that have one of the external ids looked for,
and the reserved field lists each external id once and nothing else. Whatever another batch puts
under the same external ids, in any fields and composite fields and with any analyzers, its reserved
field is the same. -/
theorem segment_identifies (valid : batch.validate = .ok ()) {documents : List AnalyzedDocument}
    (arrived : documents.Perm (batch.analyzed config)) :
    (Segment.ofAnalyzed documents).Identifies config.withPlaces ∧
      (Segment.ofAnalyzed documents).ids.toList =
        (batch.putDocuments.filter fun entry => config.accepts entry.1 entry.2).map Prod.fst ∧
      ∀ (other : Batch) (otherConfig : Config), other.validate = .ok () →
        otherConfig.withPlaces = config.withPlaces →
          (Segment.ofAnalyzed (other.analyzed otherConfig)).ids =
              (Segment.ofAnalyzed documents).ids →
            ∀ term, (Segment.ofAnalyzed (other.analyzed otherConfig)).postings? identityName term =
              (Segment.ofAnalyzed documents).postings? identityName term := by
  have identifies := identifies_of_arrived valid arrived
  refine ⟨identifies, ?_, ?_⟩
  · rw [(Segment.tabulates_ofAnalyzed documents).ids, inOrder_of_arrived arrived, ids_analyzed]
  · intro other otherConfig otherValid samePlaces sameIds
    have alsoIdentifies := identifies_of_arrived otherValid (.refl (other.analyzed otherConfig))
    rw [samePlaces] at alsoIdentifies
    exact alsoIdentifies.postings?_eq identifies sameIds

/-- Keywords, and an analyzer for external ids that finds no token in them. -/
def withoutIds : Config :=
  { Config.standard 1 with
    analyzer := some .keyword
    fieldAnalyzers := (∅ : Std.ExtTreeMap String Analyzer).insert identityName
      ⟨"nothing", fun _ => .ok []⟩ }

/-- Two documents, each with the external id of the other one as its title. -/
def crossTitled : Batch :=
  let title (words : String) : Document :=
    { fields := [⟨"title", .text words, {}⟩], composites := [{ name := "all" }] }
  ((Batch.empty.put (title "a") "b").2.put (title "b") "a").2

/-- The titles do not lead to the documents, and the analyzer for external ids is not asked. -/
theorem segment_identifies_crossTitled :
    let documents := (crossTitled.analyzed withoutIds).reverse
    let segment := Segment.ofAnalyzed documents
    crossTitled.validate = .ok () ∧ documents.Perm (crossTitled.analyzed withoutIds) ∧
      segment.ids.toList = ["a", "b"] ∧ segment.Identifies true ∧
      segment.postings? identityName "b" = some #[⟨1, 1, 1, [⟨none, 0, 0, 1⟩]⟩] ∧
      (segment.docNumbers ["b", "c", "b"]).toList = [1] := by
  have located : ((Segment.ofAnalyzed (crossTitled.analyzed withoutIds).reverse).docNumbers
      ["b", "c", "b"]).toList = [1] := by cbv
  intro documents segment
  have valid : crossTitled.validate = .ok () := by decide +kernel
  have arrived : documents.Perm (crossTitled.analyzed withoutIds) := List.reverse_perm _
  obtain ⟨identifies, ids, -⟩ := segment_identifies valid arrived
  have put : (crossTitled.putDocuments.filter fun entry =>
      withoutIds.accepts entry.1 entry.2).map Prod.fst = ["a", "b"] := by decide +kernel
  have inSegment : segment.ids.toList = ["a", "b"] := ids.trans put
  have found : segment.externalId? 1 = some "b" := by
    unfold Segment.externalId?
    rw [← Array.getElem?_toList, inSegment]
    rfl
  exact ⟨valid, arrived, inSegment, identifies, identifies.postings? 1 "b" found, located⟩

end Batch

end TextIndex
