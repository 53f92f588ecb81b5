import TextIndex.Proofs.Analysis.Documents
import TextIndex.Proofs.KeyedLists
import TextIndex.Proofs.Segment.Identity

/-!
# The identity field

A document is analyzed with its identity field after its own fields. That field's value is one term,
whatever the analyzers are, and no other field may have its name. So an analyzed document leads from
its external id to itself.

* `byField_identityName`: what an analyzed document has under the reserved name.
* `identified_of_analyzeDocument`: an analyzed document is identified.
-/

namespace TextIndex

/-! ### The summary of one token -/

namespace TermTable

theorem ofTokens_singleton (withPlaces : Bool) (token : Token) :
    (ofTokens withPlaces [token]).uses =
      Std.ExtTreeMap.insert ∅ token.text (.ofToken withPlaces token) := by
  refine Std.ExtTreeMap.ext_getElem? fun term => ?_
  show (Std.ExtTreeMap.alter ∅ token.text _)[term]? = _
  rw [Std.ExtTreeMap.getElem?_alter, Std.ExtTreeMap.getElem?_insert, Std.ExtTreeMap.getElem?_empty]

theorem toList_ofTokens_singleton (withPlaces : Bool) (token : Token) :
    (ofTokens withPlaces [token]).toList = [(token.text, .ofToken withPlaces token)] := by
  unfold toList
  rw [ofTokens_singleton, toList_insert_empty]

theorem isEmpty_ofTokens_singleton (withPlaces : Bool) (token : Token) :
    (ofTokens withPlaces [token]).isEmpty = false := by
  unfold isEmpty
  rw [ofTokens_singleton]
  simp

end TermTable

/-! ### The slot of the identity field -/

/-- The summary of an identity field. -/
def identitySummary (withPlaces : Bool) (id : String) : Summary :=
  .ofTokens withPlaces [Analyzer.wholeToken id]

theorem summarize_identity (analyzers : FieldAnalyzers) (withPlaces : Bool) (id : String) :
    (Field.identity id).summarize analyzers withPlaces = .ok (identitySummary withPlaces id) := rfl

/-- What is put together under a name, with a slot put to it. -/
def Slot.addTo (slot : Slot) : Option Summary → Option Summary
  | some earlier => some (earlier.merge slot.summary)
  | none => some slot.summary

theorem changesKey_addTo : ChangesKey Slot.name Slot.addTo
    (fun fields slot => fields.alter slot.name slot.addTo) :=
  fun _ _ _ => Std.ExtTreeMap.getElem?_alter

theorem byField_eq_foldl (analyzed : AnalyzedDocument) :
    analyzed.byField = (analyzed.slots.filter fun slot => !slot.summary.terms.isEmpty).foldl
      (fun fields slot => fields.alter slot.name slot.addTo) ∅ := rfl

/-- A slot whose name no other has, and which is not empty, is put together with no other. -/
theorem byField_of_unique {analyzed : AnalyzedDocument} {before after : List Slot} {slot : Slot}
    (slots : analyzed.slots = before ++ slot :: after) (filled : slot.summary.terms.isEmpty = false)
    (uniqueBefore : ∀ other ∈ before, other.name ≠ slot.name)
    (uniqueAfter : ∀ other ∈ after, other.name ≠ slot.name) :
    analyzed.byField[slot.name]? = some slot.summary := by
  have without : ∀ {others : List Slot}, (∀ other ∈ others, other.name ≠ slot.name) →
      slot.name ∉ (others.filter fun slot => !slot.summary.terms.isEmpty).map (·.name) := by
    intro others unique member
    obtain ⟨other, otherMember, same⟩ := List.mem_map.mp member
    exact unique other (List.mem_filter.mp otherMember).1 same
  rw [byField_eq_foldl, slots, List.filter_append, List.filter_cons_of_pos (by simp [filled]),
    List.foldl_append, List.foldl_cons, changesKey_addTo.foldl_of_not_mem _ (without uniqueAfter),
    changesKey_addTo.self, changesKey_addTo.foldl_of_not_mem _ (without uniqueBefore),
    Std.ExtTreeMap.getElem?_empty]
  rfl

/-! ### Analysis with an identity field -/

section Analyzed

variable {analyzers : FieldAnalyzers} {withPlaces : Bool} {document : Document} {id : String}
  {analyzed : AnalyzedDocument}

/-- The summaries of a document's own fields, and after them that of its identity field. -/
theorem mapM_summarize_withIdentity {own : List Summary}
    (ownDone : document.fields.mapM (Field.summarize analyzers withPlaces) = .ok own) :
    (document.withIdentity id).fields.mapM (Field.summarize analyzers withPlaces) =
      .ok (own ++ [identitySummary withPlaces id]) := by
  show (document.fields ++ [Field.identity id]).mapM _ = _
  rw [List.mapM_append, ownDone, List.mapM_cons, List.mapM_nil, summarize_identity]
  rfl

/-- Before the identity field, a fault of an own field makes the analysis fail. -/
theorem mapM_summarize_withIdentity_error {fault : AnalyzerFault}
    (ownFails : document.fields.mapM (Field.summarize analyzers withPlaces) = .error fault) :
    (document.withIdentity id).fields.mapM (Field.summarize analyzers withPlaces) =
      .error fault := by
  show (document.fields ++ [Field.identity id]).mapM _ = _
  rw [List.mapM_append, ownFails]
  rfl

/-- What the analysis of a document with its identity field gives: the summaries of its own fields,
that of the identity field, and those of the composite fields. -/
theorem analyzeDocument_withIdentity (keyed : document.id = some id)
    (done : analyzeDocument analyzers withPlaces (document.withIdentity id) = .ok analyzed) :
    analyzed.id = id ∧ analyzed.document = document.withIdentity id ∧
      ∃ own composed, own.length = document.fields.length ∧
        composed.length = document.composites.length ∧
        analyzed.summaries = own ++ identitySummary withPlaces id :: composed := by
  have hasId : (document.withIdentity id).id = some id := keyed
  unfold analyzeDocument at done
  rw [hasId] at done
  cases ownDone : document.fields.mapM (Field.summarize analyzers withPlaces) with
  | error fault =>
    rw [mapM_summarize_withIdentity_error ownDone] at done
    cases done
  | ok own =>
    rw [mapM_summarize_withIdentity ownDone] at done
    cases done
    refine ⟨rfl, rfl, own, _, ?_, ?_, List.append_assoc own _ _⟩
    · exact (mapM_eq_ok.mp ownDone).length_eq.symm
    · exact List.length_map _

/-- Only the identity field has the reserved name. -/
theorem slots_of_summaries {own composed : List Summary} {last : Summary}
    (ofDocument : analyzed.document = document.withIdentity id)
    (ownLength : own.length = document.fields.length)
    (summaries : analyzed.summaries = own ++ last :: composed) :
    analyzed.slots = List.zipWith Slot.mk (document.fields.map (·.name)) own ++
      ⟨identityName, last⟩ :: List.zipWith Slot.mk (document.composites.map (·.name)) composed := by
  have names : analyzed.names =
      document.fields.map (·.name) ++ identityName :: document.composites.map (·.name) := by
    unfold AnalyzedDocument.names
    rw [ofDocument]
    simp [Document.withIdentity, Field.identity]
  unfold AnalyzedDocument.slots
  rw [names, summaries, List.zipWith_append (by simp [ownLength]), List.zipWith_cons_cons]

theorem of_mem_zipWith {names : List String} {summaries : List Summary} {slot : Slot}
    (member : slot ∈ List.zipWith Slot.mk names summaries) :
    slot.name ∈ names ∧ slot.summary ∈ summaries := by
  rw [← List.map_uncurry_zip_eq_zipWith] at member
  obtain ⟨pair, inZip, rfl⟩ := List.mem_map.mp member
  exact List.of_mem_zip inZip

/-- Under the reserved name there is what the identity field gives and nothing else, if none of the
document's own fields has that name. -/
theorem byField_identityName (keyed : document.id = some id)
    (unreserved : document.usesReservedName = false)
    (done : analyzeDocument analyzers withPlaces (document.withIdentity id) = .ok analyzed) :
    analyzed.byField[identityName]? = some (identitySummary withPlaces id) := by
  obtain ⟨-, ofDocument, own, composed, ownLength, -, summaries⟩ :=
    analyzeDocument_withIdentity keyed done
  unfold Document.usesReservedName Document.hasField at unreserved
  rw [Bool.or_eq_false_iff, List.any_eq_false, List.any_eq_false] at unreserved
  have slots := slots_of_summaries ofDocument ownLength summaries
  refine byField_of_unique slots (TermTable.isEmpty_ofTokens_singleton _ _) ?_ ?_
  · intro other member
    obtain ⟨field, fieldMember, same⟩ := List.mem_map.mp (of_mem_zipWith member).1
    rw [← same]
    simpa using unreserved.1 field fieldMember
  · intro other member
    obtain ⟨field, fieldMember, same⟩ := List.mem_map.mp (of_mem_zipWith member).1
    rw [← same]
    simpa using unreserved.2 field fieldMember

/-- **An analyzed document is identified**, if none of its own fields has the reserved name. -/
theorem identified_of_analyzeDocument (keyed : document.id = some id)
    (unreserved : document.usesReservedName = false)
    (done : analyzeDocument analyzers withPlaces (document.withIdentity id) = .ok analyzed) :
    analyzed.Identified := by
  obtain ⟨sameId, -⟩ := analyzeDocument_withIdentity keyed done
  refine ⟨identitySummary withPlaces id, .ofToken withPlaces (Analyzer.wholeToken id),
    byField_identityName keyed unreserved done, ?_⟩
  rw [sameId]
  exact TermTable.toList_ofTokens_singleton withPlaces (Analyzer.wholeToken id)

end Analyzed

end TextIndex
