import TextIndex.Proofs.Analysis.Slots
import TextIndex.Proofs.KeyedTotals
import TextIndex.Proofs.Segment.Inversion

/-!
# The size of a segment

The size of a segment is kept while documents are added. It is the size of what the segment holds in
the end: of the external ids, of the term of each posting together with the posting, and of the
fields that are kept. A document adds the same wherever it comes, and a term that it has several
times under one name counts once for it.

* `Segment.listed`, `Segment.contentBytes`: what a segment holds, and its size.
* `AnalyzedDocument.namedTerms`, `AnalyzedDocument.bytes`: what a document adds.
* `Segment.contentBytes_push`, `Segment.size_push`: one more document.
* `Segment.size_ofAnalyzed`: the size of the segment of analyzed documents.
-/

namespace TextIndex

open TextIndex.Number

/-! ### What a document adds -/

namespace AnalyzedDocument

variable (analyzed : AnalyzedDocument)

/-- The terms that a document has under each name, each once, in however many slots it is. -/
def namedTerms : List (String × String) :=
  (analyzed.slots.flatMap fun slot =>
    slot.summary.terms.uses.keys.map fun term => (slot.name, term)).dedup

/-- What a document adds to the size of a segment: its external id, each of its terms with a
posting, and the fields that are kept. -/
def bytes : Nat :=
  analyzed.id.utf8ByteSize +
    total (analyzed.namedTerms.map fun named => named.2.utf8ByteSize + Posting.bytes) +
    total (analyzed.storedFields.map Segment.storedBytes)

variable {analyzed}

theorem mem_namedTerms {field term : String} :
    (field, term) ∈ analyzed.namedTerms ↔ analyzed.Holds field term := by
  unfold namedTerms Holds slotsOf
  rw [List.mem_dedup, List.mem_flatMap]
  constructor
  · rintro ⟨slot, member, listed⟩
    obtain ⟨_, isKey, same⟩ := List.mem_map.mp listed
    obtain ⟨rfl, rfl⟩ := Prod.mk.inj same
    exact ⟨slot, List.mem_filter.mpr ⟨member, by simp⟩, TermTable.mem_keys.mp isKey⟩
  · rintro ⟨slot, member, has⟩
    obtain ⟨isSlot, own⟩ := List.mem_filter.mp member
    refine ⟨slot, isSlot, List.mem_map.mpr ⟨term, TermTable.mem_keys.mpr has, ?_⟩⟩
    rw [of_decide_eq_true own]

/-- The slots of each name put together have the same terms, each once. -/
theorem namedTerms_perm (analyzed : AnalyzedDocument) :
    (analyzed.byField.toList.flatMap fun entry =>
      entry.2.terms.toList.map fun held => (entry.1, held.1)).Perm analyzed.namedTerms := by
  have distinct : (analyzed.byField.toList.flatMap fun entry =>
      entry.2.terms.toList.map fun held => (entry.1, held.1)).Nodup := by
    refine nodup_flatMap_key (nodup_map_fst_toList analyzed.byField) (fun entry _ => ?_) Prod.fst
      fun entry _ pair member => ?_
    · have terms := (nodup_map_fst_toList entry.2.terms.uses).map
        (f := Prod.mk entry.1) fun _ _ same => (Prod.mk.inj same).2
      rwa [List.map_map] at terms
    · obtain ⟨_, -, rfl⟩ := List.mem_map.mp member
      rfl
  refine (List.perm_ext_iff_of_nodup distinct (List.nodup_dedup _)).mpr fun ⟨field, term⟩ => ?_
  rw [show (field, term) ∈ List.dedup _ ↔ _ from mem_namedTerms, ← has_byField, List.mem_flatMap]
  constructor
  · rintro ⟨⟨name, summary⟩, member, listed⟩
    obtain ⟨⟨_, use⟩, isUse, same⟩ := List.mem_map.mp listed
    obtain ⟨rfl, rfl⟩ := Prod.mk.inj same
    rw [Std.ExtTreeMap.mem_toList_iff_getElem?_eq_some.mp member]
    exact Option.isSome_of_eq_some (Std.ExtTreeMap.mem_toList_iff_getElem?_eq_some.mp isUse)
  · intro has
    cases held : analyzed.byField[field]? with
    | none =>
      rw [held] at has
      exact absurd has (TermTable.not_has_empty term)
    | some summary =>
      rw [held] at has
      obtain ⟨use, isUse⟩ := Option.isSome_iff_exists.mp has
      refine ⟨(field, summary), Std.ExtTreeMap.mem_toList_iff_getElem?_eq_some.mpr held, ?_⟩
      exact List.mem_map.mpr
        ⟨(term, use), Std.ExtTreeMap.mem_toList_iff_getElem?_eq_some.mpr isUse, rfl⟩

theorem total_termBytes (analyzed : AnalyzedDocument) :
    total (analyzed.byField.toList.map fun entry => Segment.termBytes entry.2) =
      total (analyzed.namedTerms.map fun named => named.2.utf8ByteSize + Posting.bytes) := by
  rw [← total_perm ((namedTerms_perm analyzed).map _), total_map_flatMap]
  simp only [List.map_map]
  rfl

end AnalyzedDocument

namespace Segment

/-! ### What a segment holds -/

/-- A posting with the field and the term that it is listed under. -/
structure Listed where
  field : String
  term : String
  posting : Posting

/-- A posting counts together with its term. -/
def Listed.bytes (listed : Listed) : Nat :=
  listed.term.utf8ByteSize + Posting.bytes

/-- The postings of every term of every field. -/
def listed (segment : Segment) : List Listed :=
  segment.dictionary.toList.flatMap fun lists => lists.2.toList.flatMap fun postings =>
    postings.2.toList.map fun posting => ⟨lists.1, postings.1, posting⟩

/-- The size of what a segment holds: of its external ids, its postings and the fields kept. -/
def contentBytes (segment : Segment) : Nat :=
  total (segment.ids.toList.map String.utf8ByteSize) +
    total (segment.listed.map Listed.bytes) +
    total (segment.stored.toList.flatten.map storedBytes)

/-- What is listed are the postings that are found by field and term. -/
theorem mem_listed {segment : Segment} {listed : Listed} : listed ∈ segment.listed ↔
    listed.posting ∈ segment.postingsOf listed.field listed.term := by
  obtain ⟨field, term, posting⟩ := listed
  unfold Segment.listed postingsOf postings?
  simp only [List.mem_flatMap, List.mem_map, Prod.exists,
    Std.ExtTreeMap.mem_toList_iff_getElem?_eq_some, Listed.mk.injEq]
  constructor
  · rintro ⟨_, lists, isLists, _, postings, isPostings, _, member, rfl, rfl, rfl⟩
    rw [isLists, Option.bind_some, isPostings]
    exact member
  · intro member
    cases isLists : segment.dictionary[field]? with
    | none => simp [isLists] at member
    | some lists =>
      cases isPostings : lists[term]? with
      | none => simp [isLists, isPostings] at member
      | some postings =>
        rw [isLists, Option.bind_some, isPostings] at member
        exact ⟨field, lists, isLists, term, postings, isPostings, posting, member, rfl, rfl, rfl⟩

/-- No document has two postings for a term of a field. -/
theorem nodup_listed (documents : List AnalyzedDocument) :
    ((ofAnalyzed documents).listed.map fun listed =>
      (listed.field, listed.term, listed.posting.doc)).Nodup := by
  unfold listed
  simp only [List.map_flatMap, List.map_map]
  refine nodup_flatMap_key (nodup_map_fst_toList _) (fun lists isLists => ?_) Prod.fst
    fun lists _ found member => ?_
  · refine nodup_flatMap_key (nodup_map_fst_toList _) (fun postings isPostings => ?_) (·.2.1)
      fun postings _ found member => ?_
    · have held : (ofAnalyzed documents).postingsOf lists.1 postings.1 = postings.2.toList := by
        unfold postingsOf postings?
        rw [Std.ExtTreeMap.mem_toList_iff_getElem?_eq_some.mp isLists, Option.bind_some,
          Std.ExtTreeMap.mem_toList_iff_getElem?_eq_some.mp isPostings, Option.getD_some]
      have ascending :=
        @Tabulates.pairwise_postingsOf _ _ (tabulates_ofAnalyzed documents) lists.1 postings.1
      rw [held] at ascending
      have docs : (postings.2.toList.map (·.doc)).Nodup := ascending.imp Nat.ne_of_lt
      have paired := docs.map (f := fun doc => (lists.1, postings.1, doc)) fun _ _ same =>
        (Prod.mk.inj (Prod.mk.inj same).2).2
      rwa [List.map_map] at paired
    · obtain ⟨_, -, rfl⟩ := List.mem_map.mp member
      rfl
  · obtain ⟨_, -, inPostings⟩ := List.mem_flatMap.mp member
    obtain ⟨_, -, rfl⟩ := List.mem_map.mp inPostings
    rfl

/-- The postings of a document are its terms under each name, each once. -/
theorem listed_perm_namedTerms {documents : List AnalyzedDocument} {doc : Nat}
    {analyzed : AnalyzedDocument} (atDoc : (inOrder documents)[doc]? = some analyzed) :
    (((ofAnalyzed documents).listed.filter (·.posting.doc = doc)).map fun listed =>
      (listed.field, listed.term)).Perm analyzed.namedTerms := by
  have distinct : (((ofAnalyzed documents).listed.filter (·.posting.doc = doc)).map fun listed =>
      (listed.field, listed.term)).Nodup := by
    have triples : (((ofAnalyzed documents).listed.filter (·.posting.doc = doc)).map fun listed =>
        (listed.field, listed.term, listed.posting.doc)).Nodup :=
      (nodup_listed documents).sublist (List.filter_sublist.map _)
    refine List.pairwise_map.mpr ((List.pairwise_map.mp triples).imp_of_mem
      fun isOne isOther apart same => ?_)
    obtain ⟨sameField, sameTerm⟩ := Prod.mk.inj same
    have oneDoc := of_decide_eq_true (List.mem_filter.mp isOne).2
    have otherDoc := of_decide_eq_true (List.mem_filter.mp isOther).2
    exact apart (by rw [sameField, sameTerm, oneDoc, otherDoc])
  refine (List.perm_ext_iff_of_nodup distinct (List.nodup_dedup _)).mpr fun ⟨field, term⟩ => ?_
  rw [show (field, term) ∈ List.dedup _ ↔ _ from AnalyzedDocument.mem_namedTerms]
  have holds := @Tabulates.mem_docs_postingsOf _ _ (tabulates_ofAnalyzed documents) field term doc
  simp only [atDoc, Option.some.injEq, exists_eq_left'] at holds
  rw [← holds, List.mem_map, List.mem_map]
  constructor
  · rintro ⟨⟨_, _, posting⟩, member, same⟩
    obtain ⟨isListed, atOwn⟩ := List.mem_filter.mp member
    obtain ⟨rfl, rfl⟩ := Prod.mk.inj same
    exact ⟨posting, mem_listed.mp isListed, of_decide_eq_true atOwn⟩
  · rintro ⟨posting, member, atOwn⟩
    have isListed : ⟨field, term, posting⟩ ∈ (ofAnalyzed documents).listed :=
      mem_listed.mpr member
    exact ⟨_, List.mem_filter.mpr ⟨isListed, decide_eq_true atOwn⟩, rfl⟩

/-- The size of posting lists. -/
def listsBytes (lists : PostingLists) : Nat :=
  total (lists.toList.map fun postings =>
    total (postings.2.toList.map fun _ => postings.1.utf8ByteSize + Posting.bytes))

theorem total_listed (segment : Segment) : total (segment.listed.map Listed.bytes) =
    total (segment.dictionary.toList.map fun lists => listsBytes lists.2) := by
  unfold listed listsBytes
  simp only [total_map_flatMap, List.map_map]
  rfl

/-! ### One more document -/

/-- A document's use of each term adds one posting. -/
theorem listsBytes_pushTerms (doc : Nat) (summary : Summary) (lists : PostingLists) :
    listsBytes (pushTerms doc summary lists) = listsBytes lists + termBytes summary := by
  refine total_toList_foldl_alter
    (fun term postings => total (postings.toList.map fun _ => term.utf8ByteSize + Posting.bytes))
    Prod.fst (fun (entry : String × TermUse) postings => some ((postings.getD #[]).push
      ⟨doc, entry.2.count.toUInt32, .ofNat summary.length, entry.2.places⟩))
    (fun entry => entry.1.utf8ByteSize + Posting.bytes) (fun entry held => ?_) _ lists
  cases held with
  | none => simp
  | some postings =>
    rw [Option.elim_some, Option.elim_some, Option.getD_some, Array.toList_push, List.map_append,
      total_append]
    rfl

theorem total_listsBytes_pushFields (doc : Nat) (fields : List (String × Summary))
    (dictionary : Std.ExtTreeMap String PostingLists) :
    total ((pushFields doc fields dictionary).toList.map fun lists => listsBytes lists.2) =
      total (dictionary.toList.map fun lists => listsBytes lists.2) +
        total (fields.map fun entry => termBytes entry.2) := by
  refine total_toList_foldl_alter (fun _ lists => listsBytes lists) Prod.fst
    (fun (entry : String × Summary) lists => some (pushTerms doc entry.2 (lists.getD ∅)))
    (fun entry => termBytes entry.2) (fun entry held => ?_) fields dictionary
  rw [Option.elim_some, listsBytes_pushTerms]
  cases held <;> rfl

variable (segment : Segment) (analyzed : AnalyzedDocument)

theorem contentBytes_push :
    (segment.push analyzed).contentBytes = segment.contentBytes + analyzed.bytes := by
  have listed : total ((segment.push analyzed).listed.map Listed.bytes) =
      total (segment.listed.map Listed.bytes) +
        total (analyzed.namedTerms.map fun named => named.2.utf8ByteSize + Posting.bytes) := by
    rw [total_listed, total_listed, ← analyzed.total_termBytes]
    exact total_listsBytes_pushFields _ _ _
  have ids : (segment.push analyzed).ids.toList = segment.ids.toList ++ [analyzed.id] :=
    Array.toList_push
  have stored : (segment.push analyzed).stored.toList =
      segment.stored.toList ++ [analyzed.storedFields] :=
    Array.toList_push
  unfold contentBytes AnalyzedDocument.bytes
  rw [listed, ids, stored]
  simp only [List.map_append, List.flatten_append, total_append, List.map_cons, List.map_nil,
    total_cons, total_nil, List.flatten_cons, List.flatten_nil, List.append_nil]
  omega

theorem size_push : (segment.push analyzed).size = segment.size + analyzed.bytes := by
  show segment.size + analyzed.id.utf8ByteSize +
    total (analyzed.byField.toList.map fun entry => termBytes entry.2) +
    total (analyzed.storedFields.map storedBytes) = _
  rw [analyzed.total_termBytes]
  unfold AnalyzedDocument.bytes
  omega

/-! ### The segment of analyzed documents -/

/-- What holds of the size of one more document holds of all documents. -/
theorem size_foldl_push (documents : List AnalyzedDocument) :
    (documents.foldl push segment).size = segment.size + total (documents.map (·.bytes)) ∧
      (documents.foldl push segment).contentBytes =
        segment.contentBytes + total (documents.map (·.bytes)) := by
  induction documents generalizing segment with
  | nil => exact ⟨rfl, rfl⟩
  | cons first rest ih =>
    obtain ⟨size, content⟩ := ih (segment.push first)
    rw [List.foldl_cons, List.map_cons, total_cons, size, content, size_push, contentBytes_push]
    constructor <;> omega

theorem contentBytes_empty : empty.contentBytes = 0 := by
  rfl

/-- **The size of a segment is the size of what it holds**, where the postings of each document are
its terms under each name, each once. It is also what its documents add, each by itself, so the
order in which they come makes no difference. -/
theorem size_ofAnalyzed (documents : List AnalyzedDocument) :
    (ofAnalyzed documents).size = (ofAnalyzed documents).contentBytes ∧
      (∀ (doc : Nat) (analyzed : AnalyzedDocument), (inOrder documents)[doc]? = some analyzed →
        (((ofAnalyzed documents).listed.filter (·.posting.doc = doc)).map fun listed =>
          (listed.field, listed.term)).Perm analyzed.namedTerms) ∧
      (ofAnalyzed documents).size = total (documents.map (·.bytes)) ∧
      ∀ reordered : List AnalyzedDocument, reordered.Perm documents →
        (ofAnalyzed reordered).size = (ofAnalyzed documents).size := by
  have added (documents : List AnalyzedDocument) :
      (ofAnalyzed documents).size = total (documents.map (·.bytes)) ∧
        (ofAnalyzed documents).contentBytes = total (documents.map (·.bytes)) := by
    obtain ⟨size, content⟩ := size_foldl_push empty (inOrder documents)
    have sorted : total ((inOrder documents).map (·.bytes)) = total (documents.map (·.bytes)) :=
      total_perm ((List.mergeSort_perm documents _).map _)
    rw [sorted] at size content
    exact ⟨size.trans (Nat.zero_add _), content.trans (by rw [contentBytes_empty, Nat.zero_add])⟩
  obtain ⟨size, content⟩ := added documents
  refine ⟨size.trans content.symm, fun _ _ => listed_perm_namedTerms, size,
    fun reordered isReordered => ?_⟩
  rw [(added reordered).1, size]
  exact total_perm (isReordered.map _)

/-- Two documents that have a term in three values of one field, in either order. Each of them adds
its external id, five terms with a posting each, and five fields. -/
theorem size_analyzedTags :
    analyzedTags.reverse.Perm analyzedTags ∧
      (ofAnalyzed analyzedTags.reverse).size = (ofAnalyzed analyzedTags).size ∧
      (ofAnalyzed analyzedTags).size = 506 := by
  have reordered : analyzedTags.reverse.Perm analyzedTags := List.reverse_perm _
  obtain ⟨-, -, size, same⟩ := size_ofAnalyzed analyzedTags
  exact ⟨reordered, same _ reordered, size.trans (by cbv)⟩

end Segment

end TextIndex
