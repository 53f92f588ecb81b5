import Mathlib
import TextIndex.Proofs.Analysis.Tallies

/-!
# What composite fields are made of

A composite field takes up plain fields and nothing else. Each token of a field that it takes up is
counted once more in it, at the same place, which is marked with the name of that field. So counts
and lengths of a composite field are the sums over the fields that it takes up, and in each slot the
counts of all terms add up to the length.

* `CompositeField.TakesUp`: the fields that a composite field takes up.
* `Summary.Gathers`: that a summary is made of those of fields.
* `Summary.Placed`: that there is a place for each occurrence.
* `AnalyzedDocument.Conserves`: that no token of a document is lost, and none counted twice.
* `analyzeDocument_conserves`: what the analysis of a document gives.
-/

namespace TextIndex

open TextIndex.Number

/-! ### Which fields are taken up -/

/-- A composite field takes up a field that is indexed and may be taken up, unless it holds an
external id or is named to be left out, and only if it is named to be taken up where any is. -/
structure CompositeField.TakesUp (composite : CompositeField) (field : Field) : Prop where
  indexed : field.options.indexed = true
  composable : field.options.composable = true
  ordinary : field.name ≠ identityName
  kept : field.name ∉ composite.excluded
  wanted : composite.included = [] ∨ field.name ∈ composite.included

theorem CompositeField.takes_iff {composite : CompositeField} {field : Field} :
    composite.takes field = true ↔ composite.TakesUp field := by
  unfold takes includes
  simp only [Bool.and_eq_true, Bool.or_eq_true, bne_iff_ne, Bool.not_eq_true',
    List.contains_eq_mem, decide_eq_true_eq, decide_eq_false_iff_not, List.isEmpty_iff]
  constructor
  · rintro ⟨⟨indexed, composable⟩, ⟨ordinary, kept⟩, wanted⟩
    exact ⟨indexed, composable, ordinary, kept, wanted⟩
  · rintro ⟨indexed, composable, ordinary, kept, wanted⟩
    exact ⟨⟨indexed, composable⟩, ⟨ordinary, kept⟩, wanted⟩

instance (composite : CompositeField) (field : Field) : Decidable (composite.TakesUp field) :=
  decidable_of_iff _ CompositeField.takes_iff

namespace Summary

/-! ### What is gathered -/

/-- A summary is made of those of fields: it has their terms and counts them together, and it has
their places in the order of the fields, each marked with the name of its field. -/
structure Gathers (summary : Summary) (sources : List (Field × Summary)) : Prop where
  length : summary.length = total (sources.map (·.2.length))
  has : ∀ term, summary.terms.Has term ↔ ∃ source ∈ sources, source.2.terms.Has term
  counts : ∀ term, KeptInWords (summary.terms.countOf term).toNat
    (total (sources.map fun source => (source.2.terms.countOf term).toNat))
  places : ∀ term, summary.terms.placesOf term = sources.flatMap fun source =>
    (source.2.terms.placesOf term).map (Place.takenFrom source.1.name)

theorem gathers_empty : empty.Gathers [] where
  length := rfl
  has := fun term => iff_of_false (TermTable.not_has_empty term) (by simp)
  counts := fun term => keptInWords_toNat.mpr (TermTable.countOf_empty term)
  places := TermTable.placesOf_empty

/-- One more field comes after those that were taken up before. -/
theorem Gathers.mergeFrom {summary : Summary} {sources : List (Field × Summary)}
    (gathers : summary.Gathers sources) (source : Field × Summary) :
    (summary.mergeFrom source.1.name source.2).Gathers (sources ++ [source]) where
  length := by
    show summary.length + source.2.length = _
    rw [gathers.length, List.map_append, total_append]
    rfl
  has := fun term => by
    show (summary.terms.mergeFrom source.1.name source.2.terms).Has term ↔ _
    rw [TermTable.has_mergeFrom, gathers.has]
    simp [or_and_right, exists_or]
  counts := fun term => by
    have earlier := keptInWords_toNat.mp (gathers.counts term)
    refine keptInWords_toNat.mpr ?_
    show (summary.terms.mergeFrom source.1.name source.2.terms).countOf term = _
    rw [TermTable.countOf_mergeFrom, earlier, List.map_append, total_append, UInt64.ofNat_add]
    simp
  places := fun term => by
    show (summary.terms.mergeFrom source.1.name source.2.terms).placesOf term = _
    rw [TermTable.placesOf_mergeFrom, gathers.places, List.flatMap_append, List.flatMap_singleton]

theorem gathers_foldl (sources : List (Field × Summary)) :
    (sources.foldl (fun summary source => summary.mergeFrom source.1.name source.2) empty).Gathers
      sources := by
  induction sources using List.reverseRecOn with
  | nil => exact gathers_empty
  | append_singleton earlier source ih =>
    rw [List.foldl_append]
    exact ih.mergeFrom source

/-- The summary of a composite field is made of those of the fields that it takes up. -/
theorem gathers_summarize (composite : CompositeField) (sources : List (Field × Summary)) :
    (composite.summarize sources).Gathers
      (sources.filter fun source => composite.TakesUp source.1) := by
  have same : (sources.filter fun source => composite.takes source.1) =
      sources.filter fun source => composite.TakesUp source.1 := by
    refine List.filter_congr fun source _ => ?_
    rw [Bool.eq_iff_iff, decide_eq_true_iff, CompositeField.takes_iff]
  unfold CompositeField.summarize
  rw [same]
  exact gathers_foldl _

/-! ### Places -/

/-- If places are kept, there is one for each occurrence of a term, and otherwise there is none. -/
def Placed (summary : Summary) (withPlaces : Bool) : Prop :=
  ∀ term, if withPlaces then
    KeptInWords (summary.terms.countOf term).toNat (summary.terms.placesOf term).length
  else summary.terms.placesOf term = []

theorem placed_ofTokens (withPlaces : Bool) (tokens : List Token) :
    (ofTokens withPlaces tokens).Placed withPlaces := by
  intro term
  have places := TermTable.placesOf_ofTokens withPlaces tokens term
  cases withPlaces with
  | false => exact places
  | true =>
    refine keptInWords_toNat.mpr ?_
    show (TermTable.ofTokens true tokens).countOf term = _
    rw [TermTable.countOf_ofTokens, show (ofTokens true tokens).terms.placesOf term = _ from places,
      if_pos rfl, List.length_map, List.countP_eq_length_filter]

/-- What is gathered from fields with a place for each occurrence has one too. -/
theorem Gathers.placed {summary : Summary} {sources : List (Field × Summary)} {withPlaces : Bool}
    (gathers : summary.Gathers sources) (placed : ∀ source ∈ sources, source.2.Placed withPlaces) :
    summary.Placed withPlaces := by
  intro term
  have counted := keptInWords_toNat.mp (gathers.counts term)
  rw [gathers.places]
  cases withPlaces with
  | false =>
    refine List.flatMap_eq_nil_iff.mpr fun source member => ?_
    rw [show source.2.terms.placesOf term = [] from placed source member term, List.map_nil]
  | true =>
    have each : ∀ source ∈ sources, source.2.terms.countOf term =
        .ofNat (source.2.terms.placesOf term).length :=
      fun source member => keptInWords_toNat.mp (placed source member term)
    refine keptInWords_toNat.mpr ?_
    rw [counted, ofNat_total_map each, length_flatMap]
    simp only [List.length_map]

end Summary

/-! ### Whole documents -/

section Analyzed

variable {analyzers : FieldAnalyzers} {withPlaces : Bool} {document : Document}
  {analyzed : AnalyzedDocument}

/-- A plain field's summary is that of its tokens, if it is indexed, and otherwise that of none. -/
theorem Field.tokens_of_summarize {field : Field} {summary : Summary}
    (done : field.summarize analyzers withPlaces = .ok summary) :
    ∃ tokens, summary = .ofTokens withPlaces tokens ∧
      if field.options.indexed then field.tokens analyzers = .ok tokens else tokens = [] := by
  unfold Field.summarize at done
  split at done
  · next indexed =>
    cases made : field.tokens analyzers with
    | error fault =>
      rw [made] at done
      cases done
    | ok tokens =>
      rw [made] at done
      exact ⟨tokens, (Except.ok.inj done).symm, (if_pos indexed).mpr rfl⟩
  · next passedOver => exact ⟨[], (Except.ok.inj done).symm, (if_neg passedOver).mpr rfl⟩

/-- No token of an analyzed document is lost or counted twice. There is a summary for each plain
field and then for each composite one, under the name of that field. In each of them the counts of
all terms add up to the length, and with places there is one for each occurrence. A plain field's
summary is that of its tokens, whose places have no mark, and a composite field's is gathered from
the plain fields that it takes up. -/
structure AnalyzedDocument.Conserves (analyzed : AnalyzedDocument) (analyzers : FieldAnalyzers)
    (withPlaces : Bool) (document : Document) : Prop where
  length : analyzed.summaries.length = document.fields.length + document.composites.length
  fieldName? : ∀ slot, analyzed.fieldName? slot =
    if slot < document.fields.length then document.fields[slot]?.map (·.name)
    else document.composites[slot - document.fields.length]?.map (·.name)
  named : ∀ slot, (analyzed.fieldName? slot).isSome ↔ slot < analyzed.summaries.length
  counted : ∀ summary ∈ analyzed.summaries,
    KeptInWords summary.terms.occurrences summary.length
  placed : ∀ summary ∈ analyzed.summaries, summary.Placed withPlaces
  plain : ∀ (slot : Nat) (field : Field), document.fields[slot]? = some field →
    ∃ tokens, analyzed.summaries[slot]? = some (.ofTokens withPlaces tokens) ∧
      (if field.options.indexed then field.tokens analyzers = .ok tokens else tokens = []) ∧
      ∀ term, ∀ place ∈ (TermTable.ofTokens withPlaces tokens).placesOf term, place.source = none
  composed : ∀ (slot : Nat) (composite : CompositeField), document.composites[slot]? =
    some composite → ∃ summary, analyzed.summaries[document.fields.length + slot]? = some summary ∧
      summary.Gathers ((document.fields.zip analyzed.summaries).filter fun source =>
        composite.TakesUp source.1)

/-- The names of the fields, plain ones first. -/
theorem AnalyzedDocument.fieldName?_eq (ofDocument : analyzed.document = document) (slot : Nat) :
    analyzed.fieldName? slot = if slot < document.fields.length then
      document.fields[slot]?.map (·.name)
    else document.composites[slot - document.fields.length]?.map (·.name) := by
  unfold fieldName? names
  rw [ofDocument, List.getElem?_append, List.length_map, List.getElem?_map, List.getElem?_map]

theorem AnalyzedDocument.isSome_fieldName? (ofDocument : analyzed.document = document)
    (slot : Nat) : (analyzed.fieldName? slot).isSome ↔
      slot < document.fields.length + document.composites.length := by
  unfold fieldName? names
  simp [ofDocument]

theorem placed_of_analyzeDocument
    (done : analyzeDocument analyzers withPlaces document = .ok analyzed) :
    ∀ summary ∈ analyzed.summaries, summary.Placed withPlaces := by
  obtain ⟨_, own, -, each, rfl⟩ := analyzeDocument_eq_ok.mp done
  have ownPlaced : ∀ summary ∈ own, summary.Placed withPlaces :=
    forall_mem_of_forall₂ each fun summarized => by
      obtain ⟨tokens, rfl, -⟩ := Field.tokens_of_summarize summarized
      exact Summary.placed_ofTokens withPlaces tokens
  intro summary member
  rcases List.mem_append.mp member with isOwn | isComposed
  · exact ownPlaced summary isOwn
  · obtain ⟨composite, -, rfl⟩ := List.mem_map.mp isComposed
    refine (Summary.gathers_summarize composite _).placed fun source taken => ?_
    exact ownPlaced source.2 (List.of_mem_zip (List.mem_filter.mp taken).1).2

/-- **The analysis conserves tokens.** -/
theorem conserves_of_analyzeDocument
    (done : analyzeDocument analyzers withPlaces document = .ok analyzed) :
    analyzed.Conserves analyzers withPlaces document := by
  have ofDocument := document_of_analyzeDocument done
  have length : analyzed.summaries.length =
      document.fields.length + document.composites.length := by
    obtain ⟨_, own, -, each, rfl⟩ := analyzeDocument_eq_ok.mp done
    rw [List.length_append, List.length_map, each.length_eq]
  refine ⟨length, AnalyzedDocument.fieldName?_eq ofDocument, ?_, ?_,
    placed_of_analyzeDocument done, ?_, ?_⟩
  · rw [length]
    exact AnalyzedDocument.isSome_fieldName? ofDocument
  · exact fun summary member => (Summary.hereditary_weighed.summaries done summary member).kept
  · intro slot field held
    obtain ⟨summary, summarized, atSlot⟩ := summary_of_analyzeDocument done held
    obtain ⟨tokens, rfl, made⟩ := Field.tokens_of_summarize summarized
    exact ⟨tokens, atSlot, made, fun term place => TermTable.source_of_mem_placesOf_ofTokens⟩
  · intro slot composite held
    exact ⟨_, composed_of_analyzeDocument done held, Summary.gathers_summarize _ _⟩

/-- Whatever the composite fields are, the summaries of the plain fields stay as they are. -/
theorem analyzeDocument_withComposites
    (done : analyzeDocument analyzers withPlaces document = .ok analyzed)
    (composites : List CompositeField) :
    ∃ other, analyzeDocument analyzers withPlaces { document with composites } = .ok other ∧
      document.fields.zip other.summaries = document.fields.zip analyzed.summaries := by
  obtain ⟨id, own, keyed, each, rfl⟩ := analyzeDocument_eq_ok.mp done
  refine ⟨_, analyzeDocument_eq_ok.mpr ⟨id, own, keyed, each, rfl⟩, ?_⟩
  exact (zip_summaries each.length_eq).trans (zip_summaries each.length_eq).symm

/-- **No token is lost or counted twice, and no composite field feeds another.** With other
composite fields, the analysis succeeds as well, and a composite field that is still there has the
summary that it had. -/
theorem analyzeDocument_conserves
    (done : analyzeDocument analyzers withPlaces document = .ok analyzed) :
    analyzed.Conserves analyzers withPlaces document ∧
      ∀ composites, ∃ other,
        analyzeDocument analyzers withPlaces { document with composites } = .ok other ∧
        document.fields.zip other.summaries = document.fields.zip analyzed.summaries ∧
        ∀ (slot otherSlot : Nat) (composite : CompositeField),
          document.composites[slot]? = some composite →
            composites[otherSlot]? = some composite →
              other.summaries[document.fields.length + otherSlot]? =
                analyzed.summaries[document.fields.length + slot]? := by
  refine ⟨conserves_of_analyzeDocument done, fun composites => ?_⟩
  obtain ⟨other, otherDone, sameSources⟩ := analyzeDocument_withComposites done composites
  refine ⟨other, otherDone, sameSources, fun slot otherSlot composite held otherHeld => ?_⟩
  have otherSummary := composed_of_analyzeDocument otherDone otherHeld
  rw [composed_of_analyzeDocument done held, ← sameSources]
  exact otherSummary

/-- Five fields with one term: one that is named to be left out, one that is not indexed, and one
that may not be taken up. -/
def overlapping : Document where
  id := some "doc1"
  fields := [⟨"title", .text "rust", {}⟩, ⟨"body", .keyword "rust", {}⟩,
    ⟨"secret", .keyword "rust", {}⟩, ⟨"draft", .keyword "rust", ⟨false, true, true⟩⟩,
    ⟨"tag", .keyword "rust", ⟨true, true, false⟩⟩]
  composites := [⟨"all", [], ["secret"]⟩, ⟨"named", ["all", "body", "secret"], ["secret"]⟩]

/-- The first composite field takes up the title and the body, and the second one only the body. -/
theorem analyzeDocument_conserves_overlapping :
    ∃ analyzed, analyzeDocument (.of .keyword) true overlapping = .ok analyzed ∧
      analyzed.Conserves (.of .keyword) true overlapping ∧
      analyzed.summaries.map (·.length) = [1, 1, 1, 0, 1, 2, 1] ∧
      (analyzed.summaries.drop 5).map (·.terms.placesOf "rust") =
        [[⟨some "title", 0, 0, 4⟩, ⟨some "body", 0, 0, 4⟩], [⟨some "body", 0, 0, 4⟩]] := by
  have lengths : (analyzeDocument (.of .keyword) true overlapping).map
      (fun analyzed => analyzed.summaries.map (·.length)) = .ok [1, 1, 1, 0, 1, 2, 1] := by cbv
  have places : (analyzeDocument (.of .keyword) true overlapping).map
      (fun analyzed => (analyzed.summaries.drop 5).map (·.terms.placesOf "rust")) =
        .ok [[⟨some "title", 0, 0, 4⟩, ⟨some "body", 0, 0, 4⟩], [⟨some "body", 0, 0, 4⟩]] := by cbv
  cases done : analyzeDocument (.of .keyword) true overlapping with
  | error fault =>
    rw [done] at lengths
    cases lengths
  | ok analyzed =>
    rw [done] at lengths places
    exact ⟨analyzed, rfl, (analyzeDocument_conserves done).1, Except.ok.inj lengths,
      Except.ok.inj places⟩

end Analyzed

end TextIndex
