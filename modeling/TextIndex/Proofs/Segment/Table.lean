import Mathlib.Data.List.Nodup
import TextIndex.Index.Segment
import TextIndex.Proofs.KeyedFold

/-!
# Segments as tables

A segment is read by field: where does a term occur, which numbers does a document have. It is made
document by document. Both ways say the same: everything that is read of a field is in the analyzed
document of that number, and in no other.

* `AnalyzedDocument.posting?`, `AnalyzedDocument.numbersOf`: what a document puts into a segment.
* `Segment.Tabulates`: that a segment holds the given documents, in order of their numbers.
* `Segment.tabulates_ofAnalyzed`: the segment of analyzed documents holds these.
-/

namespace TextIndex

namespace AnalyzedDocument

/-- The posting of a term in a field of a document, under the document's number. -/
def posting? (analyzed : AnalyzedDocument) (field term : String) (doc : Nat) : Option Posting :=
  analyzed.byField[field]?.bind fun summary => (summary.terms.get? term).map fun use =>
    ⟨doc, use.count.toUInt32, .ofNat summary.length, use.places⟩

/-- The numbers that are indexed for a field of a document. -/
def numbersOf (analyzed : AnalyzedDocument) (field : String) : List Binary64 :=
  (analyzed.indexedNumbers.filter (·.1 = field)).map (·.2)

theorem doc_of_posting? {analyzed : AnalyzedDocument} {field term : String} {doc : Nat}
    {posting : Posting} (held : analyzed.posting? field term doc = some posting) :
    posting.doc = doc := by
  obtain ⟨summary, -, ofSummary⟩ := Option.bind_eq_some_iff.mp held
  obtain ⟨use, -, rfl⟩ := Option.map_eq_some_iff.mp ofSummary
  rfl

end AnalyzedDocument

namespace Segment

/-- The postings of a term in a field. -/
def postingsOf (segment : Segment) (field term : String) : List Posting :=
  ((segment.postings? field term).getD #[]).toList

/-- The numbers indexed for a field of a document. -/
def numbersOf (segment : Segment) (field : String) (doc : Nat) : List Binary64 :=
  (segment.numbers? field doc).getD []

/-! ### Postings -/

/-- A field's terms go to the posting lists of that field. -/
theorem changesKey_pushFields (doc : Nat) : ChangesKey Prod.fst
    (fun (entry : String × Summary) lists => some (pushTerms doc entry.2 (lists.getD ∅)))
    (fun dictionary entry => dictionary.alter entry.1 fun lists =>
      some (pushTerms doc entry.2 (lists.getD ∅))) :=
  fun _ _ _ => Std.ExtTreeMap.getElem?_alter

theorem getElem?_getD_empty (lists : Option PostingLists) (term : String) :
    (lists.getD ∅)[term]? = lists.bind fun lists => lists[term]? := by
  cases lists with
  | none => exact Std.ExtTreeMap.getElem?_empty
  | some lists => rfl

/-- A term's use goes to the postings of that term. -/
theorem changesKey_pushTerms (doc length : Nat) : ChangesKey Prod.fst
    (fun (entry : String × TermUse) postings => some ((postings.getD #[]).push
      ⟨doc, entry.2.count.toUInt32, .ofNat length, entry.2.places⟩))
    (fun lists entry => pushPosting lists entry.1
      ⟨doc, entry.2.count.toUInt32, .ofNat length, entry.2.places⟩) :=
  fun _ _ _ => Std.ExtTreeMap.getElem?_alter

theorem getElem?_pushTerms (doc : Nat) (summary : Summary) (lists : PostingLists) (term : String) :
    (pushTerms doc summary lists)[term]? = (summary.terms.get? term).elim lists[term]? fun use =>
      some ((lists[term]?.getD #[]).push
        ⟨doc, use.count.toUInt32, .ofNat summary.length, use.places⟩) :=
  (changesKey_pushTerms doc summary.length).foldl_toList lists summary.terms.uses term

/-- One more document changes the posting lists of the fields that it has terms in. -/
theorem getElem?_dictionary_push (segment : Segment) (analyzed : AnalyzedDocument)
    (field : String) :
    (segment.push analyzed).dictionary[field]? =
      analyzed.byField[field]?.elim segment.dictionary[field]? fun summary =>
        some (pushTerms segment.docCount summary (segment.dictionary[field]?.getD ∅)) :=
  (changesKey_pushFields segment.docCount).foldl_toList segment.dictionary analyzed.byField field

/-- One more document adds its own posting. -/
theorem postingsOf_push (segment : Segment) (analyzed : AnalyzedDocument) (field term : String) :
    (segment.push analyzed).postingsOf field term = segment.postingsOf field term ++
      (analyzed.posting? field term segment.docCount).toList := by
  unfold postingsOf postings? AnalyzedDocument.posting?
  rw [getElem?_dictionary_push]
  cases analyzed.byField[field]? with
  | none => simp
  | some summary =>
    rw [Option.elim_some, Option.bind_some, Option.bind_some, getElem?_pushTerms,
      getElem?_getD_empty]
    cases summary.terms.get? term with
    | none => simp
    | some use => simp

/-! ### Numbers -/

/-- The numbers of a field by document, with one more number of a document. -/
def pushNumber (doc : Nat) (entry : String × Binary64)
    (docs : Option (Std.ExtTreeMap Nat (List Binary64))) :
    Option (Std.ExtTreeMap Nat (List Binary64)) :=
  some ((docs.getD ∅).alter doc fun earlier => some (earlier.getD [] ++ [entry.2]))

theorem changesKey_pushNumber (doc : Nat) : ChangesKey Prod.fst (pushNumber doc)
    (fun numbers entry => numbers.alter entry.1 (pushNumber doc entry)) :=
  fun _ _ _ => Std.ExtTreeMap.getElem?_alter

/-- The numbers of a document among those of a field. -/
def numbersAt (docs : Option (Std.ExtTreeMap Nat (List Binary64))) (doc : Nat) : List Binary64 :=
  (docs.bind fun docs => docs[doc]?).getD []

theorem numbersAt_pushNumber (own : Nat) (entry : String × Binary64)
    (docs : Option (Std.ExtTreeMap Nat (List Binary64))) (doc : Nat) :
    numbersAt (pushNumber own entry docs) doc =
      numbersAt docs doc ++ if doc = own then [entry.2] else [] := by
  have held : (docs.getD ∅)[doc]? = docs.bind fun docs => docs[doc]? := by
    cases docs with
    | none => exact Std.ExtTreeMap.getElem?_empty
    | some docs => rfl
  unfold numbersAt pushNumber
  rw [Option.bind_some, Std.ExtTreeMap.getElem?_alter, ← held]
  by_cases same : doc = own
  · subst same
    simp
  · rw [if_neg fun equal => same (Std.LawfulEqCmp.eq_of_compare equal).symm, if_neg same,
      List.append_nil]

theorem numbersAt_foldl (own : Nat) (entries : List (String × Binary64))
    (docs : Option (Std.ExtTreeMap Nat (List Binary64))) (doc : Nat) :
    numbersAt (entries.foldl (fun held entry => pushNumber own entry held) docs) doc =
      numbersAt docs doc ++ if doc = own then entries.map (·.2) else [] := by
  induction entries generalizing docs with
  | nil => simp
  | cons first rest ih =>
    rw [List.foldl_cons, ih, numbersAt_pushNumber]
    split <;> simp

/-- One more document adds its own numbers, under its own number. -/
theorem numbersOf_push (segment : Segment) (analyzed : AnalyzedDocument) (field : String)
    (doc : Nat) : (segment.push analyzed).numbersOf field doc = segment.numbersOf field doc ++
      if doc = segment.docCount then analyzed.numbersOf field else [] := by
  have pushed := (changesKey_pushNumber segment.docCount).foldl segment.numbers
    analyzed.indexedNumbers field
  show numbersAt (pushNumbers _ _ _)[field]? doc = _
  unfold pushNumbers
  exact (congrArg (numbersAt · doc) pushed).trans (numbersAt_foldl _ _ _ _)

/-! ### The documents of a segment -/

/-- A segment holds documents, in order of their numbers. -/
structure Tabulates (segment : Segment) (documents : List AnalyzedDocument) : Prop where
  ids : segment.ids.toList = documents.map (·.id)
  stored : segment.stored.toList = documents.map (·.storedFields)
  postings : ∀ field term, segment.postingsOf field term =
    (List.range documents.length).filterMap fun doc =>
      documents[doc]?.bind (·.posting? field term doc)
  numbers : ∀ field doc, segment.numbersOf field doc =
    documents[doc]?.elim [] (·.numbersOf field)

theorem tabulates_empty : empty.Tabulates [] where
  ids := rfl
  stored := rfl
  postings := fun field term => by
    unfold postingsOf postings? empty
    rw [Std.ExtTreeMap.getElem?_empty]
    rfl
  numbers := fun field doc => by
    unfold numbersOf numbers? empty
    rw [Std.ExtTreeMap.getElem?_empty]
    rfl

namespace Tabulates

variable {segment : Segment} {documents : List AnalyzedDocument}
  (tabulates : segment.Tabulates documents)

include tabulates

theorem docCount : segment.docCount = documents.length := by
  rw [← List.length_map (·.id), ← tabulates.ids, Array.length_toList]
  rfl

theorem externalId? (doc : Nat) : segment.externalId? doc = documents[doc]?.map (·.id) := by
  show segment.ids[doc]? = _
  rw [← Array.getElem?_toList, tabulates.ids, List.getElem?_map]

theorem storedFields? (doc : Nat) :
    segment.storedFields? doc = documents[doc]?.map (·.storedFields) := by
  show segment.stored[doc]? = _
  rw [← Array.getElem?_toList, tabulates.stored, List.getElem?_map]

theorem push (analyzed : AnalyzedDocument) :
    (segment.push analyzed).Tabulates (documents ++ [analyzed]) where
  ids := by
    show (segment.ids.push analyzed.id).toList = _
    rw [Array.toList_push, tabulates.ids, List.map_append]
    rfl
  stored := by
    show (segment.stored.push analyzed.storedFields).toList = _
    rw [Array.toList_push, tabulates.stored, List.map_append]
    rfl
  postings := fun field term => by
    rw [postingsOf_push, tabulates.postings, tabulates.docCount, List.length_append,
      List.length_singleton, List.range_succ, List.filterMap_append]
    congr 1
    · refine List.filterMap_congr fun doc member => ?_
      rw [List.getElem?_append_left (List.mem_range.mp member)]
    · rw [List.filterMap_cons, List.filterMap_nil, List.getElem?_concat_length, Option.bind_some]
      cases analyzed.posting? field term documents.length <;> rfl
  numbers := fun field doc => by
    rw [numbersOf_push, tabulates.numbers, tabulates.docCount, List.getElem?_append]
    rcases Nat.lt_trichotomy doc documents.length with before | rfl | beyond
    · rw [if_neg (Nat.ne_of_lt before), if_pos before, List.append_nil]
    · simp
    · rw [if_neg (Nat.ne_of_gt beyond), if_neg (Nat.not_lt.mpr (Nat.le_of_lt beyond)),
        List.getElem?_eq_none (Nat.le_of_lt beyond), List.getElem?_eq_none (by simp; omega)]
      rfl

theorem foldl_push (later : List AnalyzedDocument) :
    (later.foldl Segment.push segment).Tabulates (documents ++ later) := by
  induction later generalizing segment documents with
  | nil =>
    rw [List.append_nil]
    exact tabulates
  | cons first rest ih =>
    rw [List.append_cons]
    exact ih (tabulates.push first)

end Tabulates

/-- Documents in ascending order of their external ids. -/
def inOrder (documents : List AnalyzedDocument) : List AnalyzedDocument :=
  documents.mergeSort fun first second => (compare first.id second.id).isLE

theorem mem_inOrder {documents : List AnalyzedDocument} {analyzed : AnalyzedDocument} :
    analyzed ∈ inOrder documents ↔ analyzed ∈ documents :=
  List.mem_mergeSort

/-- **The segment of analyzed documents holds these**, in ascending order of their external ids. -/
theorem tabulates_ofAnalyzed (documents : List AnalyzedDocument) :
    (ofAnalyzed documents).Tabulates (inOrder documents) :=
  tabulates_empty.foldl_push (inOrder documents)

end Segment

end TextIndex
