import Std.Data.ExtTreeSet
import TextIndex.Analysis.AnalyzedDocument

/-!
# Segments

A segment holds the documents of one batch for good. They are numbered in ascending order of their
external ids, so the same documents always make the same segment. For each field and term it lists
the documents that hold the term, in order of their numbers.

* `Segment.ofAnalyzed`: the segment of analyzed documents.
* `Segment.build`: the same, if there are not too many of them.
* `Segment.postings?`: where a term occurs in a field.
* `Segment.docNumbers`: the numbers of the documents with given external ids.
-/

namespace TextIndex

open TextIndex.Number

/-- The occurrences of a term in a field of one document. -/
structure Posting where
  /-- The number of the document. -/
  doc : Nat
  frequency : UInt32
  /-- The number of tokens in the field. -/
  fieldLength : UInt32
  places : List Place
deriving DecidableEq

/-- The terms of a field, each with its postings in order of document numbers. -/
abbrev PostingLists := Std.ExtTreeMap String (Array Posting)

/-- The documents of one batch, inverted. -/
structure Segment where
  /-- The external ids in order of document numbers. -/
  ids : Array String
  /-- The postings by field and term. -/
  dictionary : Std.ExtTreeMap String PostingLists
  /-- The fields kept of each document. -/
  stored : Array (List Field)
  /-- The numbers that are indexed, by field and document number. -/
  numbers : Std.ExtTreeMap String (Std.ExtTreeMap Nat (List Binary64))
  /-- The approximate size in bytes. -/
  size : Nat
deriving DecidableEq

/-- The bytes that a posting counts for, its places aside. -/
def Posting.bytes : Nat := 40

namespace AnalyzedDocument

/-- The summaries that are not empty, those of one field name put together. -/
def byField (analyzed : AnalyzedDocument) : Std.ExtTreeMap String Summary :=
  (analyzed.slots.filter fun slot => !slot.summary.terms.isEmpty).foldl
    (fun fields slot => fields.alter slot.name fun
      | some earlier => some (earlier.merge slot.summary)
      | none => some slot.summary) ∅

/-- The fields that are kept. -/
def storedFields (analyzed : AnalyzedDocument) : List Field :=
  analyzed.document.fields.filter (·.options.stored)

/-- The numbers that are indexed, each with the name of its field. -/
def indexedNumbers (analyzed : AnalyzedDocument) : List (String × Binary64) :=
  analyzed.document.fields.filterMap fun field =>
    if field.options.indexed then field.value.number?.map fun number => (field.name, number)
    else none

end AnalyzedDocument

namespace Segment

/-- The segment without documents. -/
def empty : Segment := ⟨#[], ∅, #[], ∅, 0⟩

instance : Inhabited Segment := ⟨empty⟩

/-- Posting lists with one more posting of a term. -/
def pushPosting (lists : PostingLists) (term : String) (posting : Posting) : PostingLists :=
  lists.alter term fun postings => some ((postings.getD #[]).push posting)

/-- Posting lists with a document's use of each term in a field. -/
def pushTerms (doc : Nat) (summary : Summary) (lists : PostingLists) : PostingLists :=
  summary.terms.toList.foldl
    (fun lists entry => pushPosting lists entry.1
      ⟨doc, entry.2.count.toUInt32, .ofNat summary.length, entry.2.places⟩) lists

/-- The dictionary with the terms of each field of a document. -/
def pushFields (doc : Nat) (fields : List (String × Summary))
    (dictionary : Std.ExtTreeMap String PostingLists) : Std.ExtTreeMap String PostingLists :=
  fields.foldl
    (fun dictionary entry => dictionary.alter entry.1 fun lists =>
      some (pushTerms doc entry.2 (lists.getD ∅))) dictionary

/-- The indexed numbers with those of a document. -/
def pushNumbers (doc : Nat) (values : List (String × Binary64))
    (numbers : Std.ExtTreeMap String (Std.ExtTreeMap Nat (List Binary64))) :
    Std.ExtTreeMap String (Std.ExtTreeMap Nat (List Binary64)) :=
  values.foldl
    (fun numbers entry => numbers.alter entry.1 fun docs =>
      some ((docs.getD ∅).alter doc fun earlier => some (earlier.getD [] ++ [entry.2]))) numbers

/-- The size of the terms of a field in one document. -/
def termBytes (summary : Summary) : Nat :=
  total (summary.terms.toList.map fun entry => entry.1.utf8ByteSize + Posting.bytes)

/-- The size of a field that is kept. -/
def storedBytes (field : Field) : Nat :=
  field.name.utf8ByteSize + field.value.plainTextBytes

/-- The segment with one more document, under the next number. -/
def push (segment : Segment) (analyzed : AnalyzedDocument) : Segment :=
  let doc := segment.ids.size
  let fields := analyzed.byField.toList
  let stored := analyzed.storedFields
  { ids := segment.ids.push analyzed.id
    dictionary := pushFields doc fields segment.dictionary
    stored := segment.stored.push stored
    numbers := pushNumbers doc analyzed.indexedNumbers segment.numbers
    size := segment.size + analyzed.id.utf8ByteSize +
      total (fields.map fun entry => termBytes entry.2) + total (stored.map storedBytes) }

/-- The segment of analyzed documents, which may come in any order. -/
def ofAnalyzed (documents : List AnalyzedDocument) : Segment :=
  (documents.mergeSort fun first second => (compare first.id second.id).isLE).foldl push empty

/-- How many documents a segment can hold: as many as the highest word of 32 bits says. -/
def capacity : Nat :=
  UInt32.size - 1

/-- The segment of analyzed documents, if it can hold them. -/
def build (documents : List AnalyzedDocument) : Except IndexError Segment :=
  if documents.length ≤ capacity then .ok (ofAnalyzed documents)
  else .error (.argument (.tooManyDocuments documents.length))

def docCount (segment : Segment) : Nat :=
  segment.ids.size

def externalId? (segment : Segment) (doc : Nat) : Option String :=
  segment.ids[doc]?

/-- The postings of a term in a field, if there are any. -/
def postings? (segment : Segment) (field term : String) : Option (Array Posting) :=
  segment.dictionary[field]?.bind fun lists => lists[term]?

/-- The fields kept of a document. -/
def storedFields? (segment : Segment) (doc : Nat) : Option (List Field) :=
  segment.stored[doc]?

/-- The numbers indexed for a field of a document, if there are any. -/
def numbers? (segment : Segment) (field : String) (doc : Nat) : Option (List Binary64) :=
  segment.numbers[field]?.bind fun docs => docs[doc]?

/-- The names of the fields with terms, in ascending order. -/
def fieldNames (segment : Segment) : List String :=
  segment.dictionary.keys

/-- The documents with one of the given external ids. -/
def docNumbers (segment : Segment) (ids : List String) : Std.ExtTreeSet Nat :=
  ids.foldl
    (fun docs id => match segment.postings? identityName id with
      | some postings => docs.insertMany (postings.toList.map (·.doc))
      | none => docs) ∅

end Segment

end TextIndex
