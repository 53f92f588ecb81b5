import TextIndex.Proofs.Analysis.TermCounts
import TextIndex.Proofs.Segment.Table
import TextIndex.Proofs.Totals

/-!
# Going through tables in any order

A document is added to a segment by going through tables: the terms of a field, the fields of the
document. Whoever keeps these tables by hash gets their entries in an order that nothing is known
of, and in another one the next time. Each entry changes only what is kept under its own key, so the
segment is the same in the end, however the tables are gone through, and so is its size.

* `Traversal`: the orders in which the entries come.
* `Traversal.push`: the segment with one more document, added in these orders.
* `Traversal.ofAnalyzed_eq`: the segment of analyzed documents does not depend on them.
-/

namespace TextIndex

open TextIndex.Number

/-- The orders in which the entries of tables come while a document is added. -/
structure Traversal where
  /-- The terms of a slot, by its place, when they are put to those of an earlier one. -/
  merged : Nat → List (String × TermUse) → List (String × TermUse)
  fields : List (String × Summary) → List (String × Summary)
  /-- The terms of a field. -/
  terms : String → List (String × TermUse) → List (String × TermUse)
  merged_perm : ∀ place entries, (merged place entries).Perm entries
  fields_perm : ∀ entries, (fields entries).Perm entries
  terms_perm : ∀ field entries, (terms field entries).Perm entries

/-- Going through a list with places is going through the list, if the places are not used. -/
theorem foldl_zipIdx {α β : Type} (step : β → α → β) (start : β) (list : List α) :
    list.zipIdx.foldl (fun state entry => step state entry.1) start = list.foldl step start := by
  have mapped : (list.zipIdx.map Prod.fst).foldl step start =
      list.zipIdx.foldl (fun state entry => step state entry.1) start := List.foldl_map
  rw [← mapped, List.zipIdx_map_fst]

namespace Traversal

variable (order : Traversal)

/-- A summary with a slot's summary put to it. -/
def merge (place : Nat) (summary other : Summary) : Summary :=
  ⟨summary.terms.addAll (order.merged place other.terms.toList), summary.length + other.length⟩

theorem merge_eq (place : Nat) (summary other : Summary) :
    order.merge place summary other = summary.merge other := by
  have reordered := order.merged_perm place other.terms.toList
  have distinct := (reordered.map Prod.fst).nodup_iff.mpr (nodup_map_fst_toList other.terms.uses)
  exact congrArg (Summary.mk · _) (summary.terms.addAll_perm distinct reordered)

/-- The summaries that are not empty, those of one field name put together. -/
def byField (analyzed : AnalyzedDocument) : Std.ExtTreeMap String Summary :=
  (analyzed.slots.filter fun slot => !slot.summary.terms.isEmpty).zipIdx.foldl
    (fun fields entry => fields.alter entry.1.name fun
      | some earlier => some (order.merge entry.2 earlier entry.1.summary)
      | none => some entry.1.summary) ∅

theorem byField_eq (analyzed : AnalyzedDocument) : order.byField analyzed = analyzed.byField := by
  unfold byField AnalyzedDocument.byField
  simp only [merge_eq]
  exact foldl_zipIdx (fun (fields : Std.ExtTreeMap String Summary) (slot : Slot) =>
    fields.alter slot.name fun
      | some earlier => some (earlier.merge slot.summary)
      | none => some slot.summary) ∅ _

/-- Posting lists with a document's use of each term in a field. -/
def pushTerms (field : String) (doc : Nat) (summary : Summary) (lists : PostingLists) :
    PostingLists :=
  (order.terms field summary.terms.toList).foldl
    (fun lists entry => Segment.pushPosting lists entry.1
      ⟨doc, entry.2.count.toUInt32, .ofNat summary.length, entry.2.places⟩) lists

theorem pushTerms_eq (field : String) (doc : Nat) (summary : Summary) (lists : PostingLists) :
    order.pushTerms field doc summary lists = Segment.pushTerms doc summary lists :=
  have reordered := order.terms_perm field summary.terms.toList
  (Segment.changesKey_pushTerms doc summary.length).foldl_perm lists
    ((reordered.map Prod.fst).nodup_iff.mpr (nodup_map_fst_toList summary.terms.uses)) reordered

/-- The dictionary with the terms of each field of a document. -/
def pushFields (doc : Nat) (fields : List (String × Summary))
    (dictionary : Std.ExtTreeMap String PostingLists) : Std.ExtTreeMap String PostingLists :=
  fields.foldl
    (fun dictionary entry => dictionary.alter entry.1 fun lists =>
      some (order.pushTerms entry.1 doc entry.2 (lists.getD ∅))) dictionary

theorem pushFields_eq (doc : Nat) (table : Std.ExtTreeMap String Summary)
    (dictionary : Std.ExtTreeMap String PostingLists) :
    order.pushFields doc (order.fields table.toList) dictionary =
      Segment.pushFields doc table.toList dictionary := by
  have reordered := order.fields_perm table.toList
  unfold pushFields
  simp only [pushTerms_eq]
  exact (Segment.changesKey_pushFields doc).foldl_perm dictionary
    ((reordered.map Prod.fst).nodup_iff.mpr (nodup_map_fst_toList table)) reordered

/-- The size of the terms of a field in one document. -/
def termBytes (field : String) (summary : Summary) : Nat :=
  total ((order.terms field summary.terms.toList).map fun entry =>
    entry.1.utf8ByteSize + Posting.bytes)

theorem termBytes_eq (field : String) (summary : Summary) :
    order.termBytes field summary = Segment.termBytes summary :=
  total_perm ((order.terms_perm field summary.terms.toList).map _)

/-- The segment with one more document, under the next number. -/
def push (segment : Segment) (analyzed : AnalyzedDocument) : Segment :=
  let fields := order.fields (order.byField analyzed).toList
  let stored := analyzed.storedFields
  { ids := segment.ids.push analyzed.id
    dictionary := order.pushFields segment.ids.size fields segment.dictionary
    stored := segment.stored.push stored
    numbers := Segment.pushNumbers segment.ids.size analyzed.indexedNumbers segment.numbers
    size := segment.size + analyzed.id.utf8ByteSize +
      total (fields.map fun entry => order.termBytes entry.1 entry.2) +
      total (stored.map Segment.storedBytes) }

/-- In whatever order the tables are gone through, a document adds the same to a segment. -/
theorem push_eq (segment : Segment) (analyzed : AnalyzedDocument) :
    order.push segment analyzed = segment.push analyzed := by
  have bytes : total ((order.fields analyzed.byField.toList).map fun entry =>
        order.termBytes entry.1 entry.2) =
      total (analyzed.byField.toList.map fun entry => Segment.termBytes entry.2) := by
    simp only [termBytes_eq]
    exact total_perm ((order.fields_perm _).map _)
  unfold push Segment.push
  simp only [byField_eq, pushFields_eq, bytes]

/-- The segment of analyzed documents, each added in orders of its own. -/
def ofAnalyzed (orders : Nat → Traversal) (documents : List AnalyzedDocument) : Segment :=
  (Segment.inOrder documents).zipIdx.foldl
    (fun segment entry => (orders entry.2).push segment entry.1) .empty

/-- **The segment of analyzed documents is the same, however their tables are gone through.** -/
theorem ofAnalyzed_eq (orders : Nat → Traversal) (documents : List AnalyzedDocument) :
    ofAnalyzed orders documents = .ofAnalyzed documents := by
  unfold ofAnalyzed
  simp only [push_eq]
  exact foldl_zipIdx Segment.push .empty (Segment.inOrder documents)

end Traversal

end TextIndex
