import Mathlib
import TextIndex.Proofs.Analysis.Tallies

/-!
# Segments as inverted documents

A segment says of its documents what their slots say, turned around. Its documents are numbered in
ascending order of their external ids. A term has postings in a field if some document has it in a
slot of that name, one for each such document, with the sums over its slots and with the places slot
by slot. Nothing is listed that is empty, so the fields of a segment are those with postings.

* `AnalyzedDocument.FromAnalysis`: that a document was given by the analysis.
* `Segment.Filled`: that nothing is listed that is empty.
* `Segment.Inverts`: that a segment is the inversion of documents.
* `Segment.inverts_ofAnalyzed`: the segment of analyzed documents is their inversion.
-/

namespace TextIndex

open TextIndex.Number

/-- The analysis of some document gave this, whatever the analyzers were. -/
def AnalyzedDocument.FromAnalysis (analyzed : AnalyzedDocument) : Prop :=
  ∃ analyzers withPlaces document, analyzeDocument analyzers withPlaces document = .ok analyzed

/-- The numbers that a document's indexed fields of a name have, in order. -/
def Document.numbersOf (document : Document) (name : String) : List Binary64 :=
  (document.fields.filter fun field => field.options.indexed && field.name == name).filterMap
    (·.value.number?)

/-- What a posting says of the occurrences of a term in a document. The counts are those of the
document as long as they fit into the words of a posting. -/
structure Posting.Tells (posting : Posting) (analyzed : AnalyzedDocument) (field term : String) :
    Prop where
  frequency : analyzed.lengthOf field < 2 ^ 32 →
    posting.frequency.toNat = analyzed.frequencyOf field term
  fieldLength : analyzed.lengthOf field < 2 ^ 32 →
    posting.fieldLength.toNat = analyzed.lengthOf field
  places : posting.places = analyzed.placesOf field term

namespace AnalyzedDocument

variable {analyzed : AnalyzedDocument} {field term : String} {doc : Nat}

theorem FromAnalysis.slots (genuine : analyzed.FromAnalysis) :
    ∀ slot ∈ analyzed.slots, slot.summary.Measured ∧ slot.summary.Tallied := by
  obtain ⟨_, _, _, done⟩ := genuine
  exact fun slot member => ⟨measured_of_analyzeDocument done slot member,
    (Summary.hereditary_weighed.slots done slot member).tallied⟩

theorem FromAnalysis.tells (genuine : analyzed.FromAnalysis) {posting : Posting}
    (posted : analyzed.posting? field term doc = some posting) :
    posting.Tells analyzed field term := by
  have measured := fun slot member => (genuine.slots slot member).1
  obtain ⟨frequency, fieldLength⟩ := posting?_eq_some measured posted
  refine ⟨fun fits => ?_, fun fits => ?_, places_of_posting? posted⟩
  · rw [frequency]
    exact UInt32.toNat_ofNat_of_lt' (Nat.lt_of_le_of_lt (frequencyOf_le measured) fits)
  · rw [fieldLength]
    exact UInt32.toNat_ofNat_of_lt' fits

theorem numbersOf_eq : analyzed.numbersOf field = analyzed.document.numbersOf field := by
  unfold numbersOf indexedNumbers Document.numbersOf
  induction analyzed.document.fields with
  | nil => rfl
  | cons first rest ih =>
    by_cases indexed : first.options.indexed <;> by_cases own : first.name = field <;>
      cases value : first.value.number? <;> simp_all

end AnalyzedDocument

namespace Segment

/-! ### Nothing is empty -/

/-- A segment lists no field without terms, no term without postings, and no document without
numbers. -/
structure Filled (segment : Segment) : Prop where
  lists : ∀ (field : String) (lists : PostingLists), segment.dictionary[field]? = some lists →
    ∃ term : String, lists[term]?.isSome
  postings : ∀ field term, segment.postings? field term ≠ some #[]
  numbers : ∀ field doc, segment.numbers? field doc ≠ some []

theorem filled_empty : empty.Filled where
  lists := fun field lists held => by
    unfold empty at held
    rw [Std.ExtTreeMap.getElem?_empty] at held
    cases held
  postings := fun field term => by
    unfold postings? empty
    rw [Std.ExtTreeMap.getElem?_empty]
    exact nofun
  numbers := fun field doc => by
    unfold numbers? empty
    rw [Std.ExtTreeMap.getElem?_empty]
    exact nofun

/-- Numbers are listed only where there are some. -/
theorem pushNumber_ne_nil (own doc : Nat) (entries : List (String × Binary64))
    {docs : Option (Std.ExtTreeMap Nat (List Binary64))}
    (filled : (docs.bind fun docs => docs[doc]?) ≠ some []) :
    ((entries.foldl (fun held entry => pushNumber own entry held) docs).bind
      fun docs => docs[doc]?) ≠ some [] := by
  induction entries generalizing docs with
  | nil => exact filled
  | cons first rest ih =>
    refine ih ?_
    unfold pushNumber
    rw [Option.bind_some, Std.ExtTreeMap.getElem?_alter]
    split
    · simp
    · cases docs with
      | none => simp
      | some docs => exact filled

theorem Filled.push {segment : Segment} (filled : segment.Filled) (analyzed : AnalyzedDocument) :
    (segment.push analyzed).Filled where
  lists := by
    intro field lists held
    rw [getElem?_dictionary_push] at held
    cases summarized : analyzed.byField[field]? with
    | none =>
      rw [summarized] at held
      exact filled.lists field lists held
    | some summary =>
      rw [summarized] at held
      obtain ⟨term, has⟩ := AnalyzedDocument.exists_has_of_byField summarized
      obtain ⟨use, isUse⟩ := Option.isSome_iff_exists.mp has
      refine ⟨term, ?_⟩
      rw [← Option.some.inj held, getElem?_pushTerms, isUse]
      rfl
  postings := by
    intro field term
    unfold postings?
    rw [getElem?_dictionary_push]
    cases analyzed.byField[field]? with
    | none => exact filled.postings field term
    | some summary =>
      rw [Option.elim_some, Option.bind_some, getElem?_pushTerms, getElem?_getD_empty]
      cases summary.terms.get? term with
      | none => exact filled.postings field term
      | some use => simp
  numbers := by
    intro field doc
    have pushed := (changesKey_pushNumber segment.docCount).foldl segment.numbers
      analyzed.indexedNumbers field
    unfold numbers?
    refine Eq.trans_ne (congrArg (Option.bind · fun docs => docs[doc]?) pushed) ?_
    exact pushNumber_ne_nil _ _ _ (filled.numbers field doc)

theorem filled_ofAnalyzed (documents : List AnalyzedDocument) : (ofAnalyzed documents).Filled := by
  have general : ∀ (later : List AnalyzedDocument) (segment : Segment), segment.Filled →
      (later.foldl Segment.push segment).Filled := by
    intro later
    induction later with
    | nil => exact fun _ filled => filled
    | cons first rest ih => exact fun _ filled => ih _ (filled.push first)
  exact general _ _ filled_empty

namespace Filled

variable {segment : Segment} (filled : segment.Filled)

include filled

theorem postingsOf_ne_nil {field term : String} :
    segment.postingsOf field term ≠ [] ↔ (segment.postings? field term).isSome := by
  have nonempty := filled.postings field term
  unfold postingsOf
  cases held : segment.postings? field term with
  | none => simp
  | some postings =>
    rw [held] at nonempty
    simpa using nonempty

theorem numbers?_eq (field : String) (doc : Nat) : segment.numbers? field doc =
    if segment.numbersOf field doc = [] then none else some (segment.numbersOf field doc) := by
  have nonempty := filled.numbers field doc
  unfold numbersOf
  cases held : segment.numbers? field doc with
  | none => simp
  | some numbers =>
    rw [held] at nonempty
    simp_all

theorem mem_fieldNames {field : String} :
    field ∈ segment.fieldNames ↔ ∃ term, (segment.postings? field term).isSome := by
  unfold fieldNames postings?
  rw [Std.ExtTreeMap.mem_keys, Std.ExtTreeMap.mem_iff_isSome_getElem?]
  cases held : segment.dictionary[field]? with
  | none => simp
  | some lists => simpa using filled.lists field lists held

end Filled

/-! ### What is listed -/

/-- All terms of a field. -/
def termsIn (segment : Segment) (field : String) : List String :=
  (segment.dictionary[field]?.getD ∅).keys

/-- The frequency that the posting of a document tells, if there is one. -/
def frequencyIn (segment : Segment) (field term : String) (doc : Nat) : Nat :=
  ((segment.postingsOf field term).find? (·.doc = doc)).elim 0 (·.frequency.toNat)

theorem mem_termsIn {segment : Segment} {field term : String} :
    term ∈ segment.termsIn field ↔ (segment.postings? field term).isSome := by
  unfold termsIn postings?
  rw [Std.ExtTreeMap.mem_keys, Std.ExtTreeMap.mem_iff_isSome_getElem?, getElem?_getD_empty]

namespace Tabulates

variable {segment : Segment} {documents : List AnalyzedDocument}
  (tabulates : segment.Tabulates documents) {field term : String}

include tabulates

theorem mem_postingsOf {posting : Posting} : posting ∈ segment.postingsOf field term ↔
    ∃ analyzed, documents[posting.doc]? = some analyzed ∧
      analyzed.posting? field term posting.doc = some posting := by
  rw [tabulates.postings, List.mem_filterMap]
  constructor
  · rintro ⟨doc, -, held⟩
    obtain ⟨analyzed, atDoc, posted⟩ := Option.bind_eq_some_iff.mp held
    obtain rfl := AnalyzedDocument.doc_of_posting? posted
    exact ⟨analyzed, atDoc, posted⟩
  · rintro ⟨analyzed, atDoc, posted⟩
    refine ⟨posting.doc, List.mem_range.mpr (List.getElem?_eq_some_iff.mp atDoc).1, ?_⟩
    rw [atDoc]
    exact posted

/-- The documents of the postings of a term are those that hold it. -/
theorem mem_docs_postingsOf {doc : Nat} : doc ∈ (segment.postingsOf field term).map (·.doc) ↔
    ∃ analyzed, documents[doc]? = some analyzed ∧ analyzed.Holds field term := by
  rw [List.mem_map]
  constructor
  · rintro ⟨posting, member, rfl⟩
    obtain ⟨analyzed, atDoc, posted⟩ := tabulates.mem_postingsOf.mp member
    exact ⟨analyzed, atDoc, AnalyzedDocument.isSome_posting?.mp (Option.isSome_of_eq_some posted)⟩
  · rintro ⟨analyzed, atDoc, holds⟩
    obtain ⟨posting, posted⟩ :=
      Option.isSome_iff_exists.mp ((@AnalyzedDocument.isSome_posting? _ _ _ doc).mpr holds)
    obtain rfl := AnalyzedDocument.doc_of_posting? posted
    exact ⟨posting, tabulates.mem_postingsOf.mpr ⟨analyzed, atDoc, posted⟩, rfl⟩

theorem postingsOf_ne_nil : segment.postingsOf field term ≠ [] ↔
    ∃ analyzed ∈ documents, analyzed.Holds field term := by
  constructor
  · intro listed
    obtain ⟨posting, member⟩ := List.exists_mem_of_ne_nil _ listed
    obtain ⟨analyzed, atDoc, holds⟩ :=
      tabulates.mem_docs_postingsOf.mp (List.mem_map_of_mem (f := (·.doc)) member)
    exact ⟨analyzed, List.mem_of_getElem? atDoc, holds⟩
  · rintro ⟨analyzed, member, holds⟩ isEmpty
    obtain ⟨doc, atDoc⟩ := List.mem_iff_getElem?.mp member
    have listed := tabulates.mem_docs_postingsOf.mpr ⟨analyzed, atDoc, holds⟩
    rw [isEmpty] at listed
    cases listed

/-- The postings of a term are in order of their documents, one for each. -/
theorem pairwise_postingsOf :
    ((segment.postingsOf field term).map (·.doc)).Pairwise (· < ·) := by
  rw [tabulates.postings]
  have listed : (((List.range documents.length).filterMap fun doc =>
      documents[doc]?.bind (·.posting? field term doc)).map (·.doc)).Sublist
        ((List.range documents.length).map id) := by
    refine map_filterMap_sublist fun doc _ posting held => ?_
    obtain ⟨analyzed, -, posted⟩ := Option.bind_eq_some_iff.mp held
    exact AnalyzedDocument.doc_of_posting? posted
  rw [List.map_id] at listed
  exact List.pairwise_lt_range.sublist listed

/-- The frequency that is told of a document is its own. -/
theorem frequencyIn_eq {doc : Nat} {analyzed : AnalyzedDocument}
    (atDoc : documents[doc]? = some analyzed) (genuine : analyzed.FromAnalysis)
    (fits : analyzed.lengthOf field < 2 ^ 32) :
    segment.frequencyIn field term doc = analyzed.frequencyOf field term := by
  unfold frequencyIn
  cases found : (segment.postingsOf field term).find? (·.doc = doc) with
  | some posting =>
    obtain ⟨other, atOther, posted⟩ :=
      tabulates.mem_postingsOf.mp (List.mem_of_find?_eq_some found)
    obtain rfl : posting.doc = doc := by simpa using List.find?_some found
    obtain rfl := Option.some.inj (atDoc.symm.trans atOther)
    exact (genuine.tells posted).frequency fits
  | none =>
    have absent : ¬analyzed.Holds field term := fun holds => by
      obtain ⟨posting, member, same⟩ :=
        List.mem_map.mp (tabulates.mem_docs_postingsOf.mpr ⟨analyzed, atDoc, holds⟩)
      simpa [same] using List.find?_eq_none.mp found posting member
    have noMention : ∀ slot ∈ analyzed.slotsOf field,
        (slot.summary.terms.countOf term).toNat = 0 := fun slot member => by
      rw [TermTable.countOf_of_not_has fun has => absent ⟨slot, member, has⟩]
      rfl
    show 0 = total ((analyzed.slotsOf field).map fun slot =>
      (slot.summary.terms.countOf term).toNat)
    rw [List.map_congr_left noMention, total_map_zero]

end Tabulates

/-! ### The inversion -/

/-- A segment is the inversion of documents, which are given in order of their numbers. -/
structure Inverts (segment : Segment) (documents : List AnalyzedDocument) : Prop where
  docCount : segment.docCount = documents.length
  externalId? : ∀ doc, segment.externalId? doc = documents[doc]?.map (·.id)
  isSome_postings? : ∀ field term, (segment.postings? field term).isSome ↔
    ∃ analyzed ∈ documents, analyzed.Holds field term
  /-- One posting for each document that holds the term, in order of their numbers. -/
  postings : ∀ field term postings, segment.postings? field term = some postings →
    postings ≠ #[] ∧ (postings.toList.map (·.doc)).Pairwise (· < ·) ∧
      (∀ doc, doc ∈ postings.toList.map (·.doc) ↔
        ∃ analyzed, documents[doc]? = some analyzed ∧ analyzed.Holds field term) ∧
      ∀ posting ∈ postings.toList, ∃ analyzed, documents[posting.doc]? = some analyzed ∧
        posting.Tells analyzed field term
  /-- The frequencies of all terms of a field add up to its length. -/
  frequencies : ∀ (doc : Nat) (analyzed : AnalyzedDocument) (field : String),
    documents[doc]? = some analyzed → analyzed.lengthOf field < 2 ^ 32 →
      total ((segment.termsIn field).map (segment.frequencyIn field · doc)) =
        analyzed.lengthOf field
  ascending : segment.fieldNames.Pairwise fun first second => compare first second = .lt
  mem_fieldNames : ∀ field, field ∈ segment.fieldNames ↔
    ∃ term, (segment.postings? field term).isSome
  storedFields? : ∀ doc, segment.storedFields? doc =
    documents[doc]?.map fun analyzed => analyzed.document.fields.filter (·.options.stored)
  /-- The indexed numbers, which are left out where there are none. -/
  numbers? : ∀ field doc, segment.numbers? field doc =
    (documents[doc]?.map (·.document.numbersOf field)).filter (· ≠ [])

theorem Tabulates.inverts {segment : Segment} {documents : List AnalyzedDocument}
    (tabulates : segment.Tabulates documents) (filled : segment.Filled)
    (genuine : ∀ analyzed ∈ documents, analyzed.FromAnalysis) : segment.Inverts documents where
  docCount := tabulates.docCount
  externalId? := tabulates.externalId?
  isSome_postings? := by
    intro field term
    rw [← filled.postingsOf_ne_nil]
    exact tabulates.postingsOf_ne_nil
  postings := by
    intro field term postings held
    have listed : postings.toList = segment.postingsOf field term := by
      unfold postingsOf
      rw [held]
      rfl
    refine ⟨fun isEmpty => filled.postings field term (isEmpty ▸ held), ?_, ?_, ?_⟩
    · rw [listed]
      exact tabulates.pairwise_postingsOf
    · intro doc
      rw [listed]
      exact tabulates.mem_docs_postingsOf
    · intro posting member
      rw [listed] at member
      obtain ⟨analyzed, atDoc, posted⟩ := tabulates.mem_postingsOf.mp member
      exact ⟨analyzed, atDoc, (genuine analyzed (List.mem_of_getElem? atDoc)).tells posted⟩
  frequencies := by
    intro doc analyzed field atDoc fits
    have isGenuine := genuine analyzed (List.mem_of_getElem? atDoc)
    have own : (segment.frequencyIn field · doc) = analyzed.frequencyOf field :=
      funext fun term => tabulates.frequencyIn_eq atDoc isGenuine fits
    rw [own]
    refine AnalyzedDocument.total_frequencyOf (fun slot member => (isGenuine.slots slot member).2)
      (by omega) Std.ExtTreeMap.nodup_keys fun term holds => mem_termsIn.mpr ?_
    rw [← filled.postingsOf_ne_nil]
    exact tabulates.postingsOf_ne_nil.mpr ⟨analyzed, List.mem_of_getElem? atDoc, holds⟩
  ascending := Std.ExtTreeMap.ordered_keys
  mem_fieldNames := fun _ => filled.mem_fieldNames
  storedFields? := tabulates.storedFields?
  numbers? := by
    intro field doc
    rw [filled.numbers?_eq, tabulates.numbers]
    cases documents[doc]? with
    | none => rfl
    | some analyzed =>
      simp only [Option.elim_some, Option.map_some, AnalyzedDocument.numbersOf_eq]
      by_cases isEmpty : analyzed.document.numbersOf field = [] <;> simp [isEmpty, Option.filter]

/-- **The segment of analyzed documents is their inversion**, in ascending order of their external
ids, whatever order they come in and however often names and ids repeat. -/
theorem inverts_ofAnalyzed {documents : List AnalyzedDocument}
    (genuine : ∀ analyzed ∈ documents, analyzed.FromAnalysis) :
    (inOrder documents).Perm documents ∧
      (inOrder documents).Pairwise (fun first second => (compare first.id second.id).isLE) ∧
      (ofAnalyzed documents).Inverts (inOrder documents) :=
  ⟨List.mergeSort_perm _ _, pairwise_mergeSort_key AnalyzedDocument.id documents,
    (tabulates_ofAnalyzed documents).inverts (filled_ofAnalyzed documents) fun analyzed member =>
      genuine analyzed (mem_inOrder.mp member)⟩

/-- A document with tags and ranks, some of them more than once. -/
def repeatedTags (id : String) : Document where
  id := some id
  fields := [⟨"tag", .keyword "rust", {}⟩, ⟨"tag", .keyword "search", {}⟩,
    ⟨"tag", .keyword "rust", {}⟩, ⟨"rank", .float .one, {}⟩, ⟨"rank", .float .one, {}⟩]
  composites := [{ name := "all", excluded := ["rank"] }]

/-- Two such documents, which come in descending order of their external ids. -/
def analyzedTags : List AnalyzedDocument :=
  ["b", "a"].filterMap fun id =>
    (analyzeDocument (.of .keyword) false (repeatedTags id)).toOption

theorem inverts_analyzedTags :
    (∀ analyzed ∈ analyzedTags, analyzed.FromAnalysis) ∧
      (inOrder analyzedTags).map (·.id) = ["a", "b"] ∧
      (ofAnalyzed analyzedTags).postings? "tag" "rust" = some #[⟨0, 2, 3, []⟩, ⟨1, 2, 3, []⟩] ∧
      (ofAnalyzed analyzedTags).fieldNames = ["all", "rank", "tag"] ∧
      (ofAnalyzed analyzedTags).numbers? "rank" 1 = some [.one, .one] ∧
      (ofAnalyzed analyzedTags).Inverts (inOrder analyzedTags) := by
  have genuine : ∀ analyzed ∈ analyzedTags, analyzed.FromAnalysis := by
    intro analyzed member
    obtain ⟨id, -, kept⟩ := List.mem_filterMap.mp member
    cases done : analyzeDocument (.of .keyword) false (repeatedTags id) with
    | error fault =>
      rw [done] at kept
      cases kept
    | ok other =>
      rw [done] at kept
      exact ⟨_, _, _, done.trans (congrArg Except.ok (Option.some.inj kept))⟩
  exact ⟨genuine, by cbv, by cbv, by cbv, by cbv,
    (inverts_ofAnalyzed genuine).2.2⟩

end Segment

end TextIndex
