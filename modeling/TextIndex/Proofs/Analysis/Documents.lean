import Mathlib.Data.List.Forall2
import TextIndex.Analysis.AnalyzedDocument

/-!
# What analysis gives

The plain fields of a document are summarized one after the other. The first one that cannot be
summarized makes the analysis fail. Otherwise the composite fields are made of the summaries, which
cannot fail.

* `mapM_eq_ok`, `mapM_eq_error`: a step that may fail, on a whole list.
* `analyzeDocument_eq_ok`, `analyzeDocument_eq_error`: how the analysis of a document ends.
* `summary_of_analyzeDocument`, `composed_of_analyzeDocument`: where the summary of a field is.
-/

namespace TextIndex

section Steps

variable {α β ε : Type} {f : α → Except ε β} {list : List α}

/-- A step that may fail succeeds on a whole list exactly if it succeeds on each element. -/
theorem mapM_eq_ok {results : List β} : list.mapM f = .ok results ↔
    List.Forall₂ (fun value result => f value = .ok result) list results := by
  induction list generalizing results with
  | nil =>
    rw [List.mapM_nil, List.forall₂_nil_left_iff]
    exact ⟨fun same => (Except.ok.inj same).symm, fun same => same ▸ rfl⟩
  | cons first rest ih =>
    rw [List.mapM_cons, List.forall₂_cons_left_iff]
    constructor
    · intro done
      cases firstDone : f first with
      | error fault =>
        rw [firstDone] at done
        cases done
      | ok result =>
        cases restDone : rest.mapM f with
        | error fault =>
          rw [firstDone, restDone] at done
          cases done
        | ok later =>
          rw [firstDone, restDone] at done
          exact ⟨result, later, rfl, ih.mp restDone, (Except.ok.inj done).symm⟩
    · rintro ⟨result, later, firstDone, restDone, rfl⟩
      rw [firstDone, ih.mpr restDone]
      rfl

theorem forall_mem_of_forall₂ {relates : α → β → Prop} {holds : β → Prop} {results : List β}
    (each : List.Forall₂ relates list results)
    (keeps : ∀ {value result}, relates value result → holds result) :
    ∀ result ∈ results, holds result := by
  induction each with
  | nil => exact nofun
  | cons related _ ih => exact List.forall_mem_cons.mpr ⟨keeps related, ih⟩

/-- It fails exactly if it fails on some element, with the fault of the first such element. -/
theorem mapM_eq_error {fault : ε} : list.mapM f = .error fault ↔
    ∃ before value after, list = before ++ value :: after ∧
      (∀ earlier ∈ before, ∃ result, f earlier = .ok result) ∧ f value = .error fault := by
  constructor
  · intro fails
    induction list with
    | nil => cases fails
    | cons first rest ih =>
      rw [List.mapM_cons] at fails
      cases firstDone : f first with
      | error cause =>
        rw [firstDone] at fails
        cases fails
        exact ⟨[], first, rest, rfl, nofun, firstDone⟩
      | ok result =>
        rw [firstDone] at fails
        have laterFails : rest.mapM f = .error fault := by
          cases restDone : rest.mapM f with
          | error cause =>
            rw [restDone] at fails
            exact fails
          | ok later =>
            rw [restDone] at fails
            cases fails
        obtain ⟨before, value, after, rfl, fine, valueFails⟩ := ih laterFails
        refine ⟨first :: before, value, after, rfl, ?_, valueFails⟩
        exact List.forall_mem_cons.mpr ⟨⟨result, firstDone⟩, fine⟩
  · rintro ⟨before, value, after, rfl, fine, valueFails⟩
    induction before with
    | nil =>
      rw [List.nil_append, List.mapM_cons, valueFails]
      rfl
    | cons first before ih =>
      rw [List.forall_mem_cons] at fine
      obtain ⟨⟨result, firstDone⟩, fineLater⟩ := fine
      rw [List.cons_append, List.mapM_cons, firstDone, ih fineLater]
      rfl

/-- An element on which it succeeds cannot make it fail. -/
theorem mapM_insert_eq_error {value : α} {result : β} (done : f value = .ok result)
    {before after : List α} {fault : ε} :
    (before ++ value :: after).mapM f = .error fault ↔
      (before ++ after).mapM f = .error fault := by
  rw [List.mapM_append, List.mapM_append, List.mapM_cons, done]
  cases before.mapM f with
  | error cause => rfl
  | ok first => cases after.mapM f <;> simp [bind, Except.bind, pure, Except.pure]

end Steps

section Analyzed

variable {analyzers : FieldAnalyzers} {withPlaces : Bool} {document : Document}
  {analyzed : AnalyzedDocument}

theorem analyzeDocument_of_id {id : String} (keyed : document.id = some id) :
    analyzeDocument analyzers withPlaces document =
      (document.fields.mapM (Field.summarize analyzers withPlaces)).map fun plain =>
        ⟨id, document,
          plain ++ document.composites.map (·.summarize (document.fields.zip plain))⟩ := by
  unfold analyzeDocument
  rw [keyed]
  cases document.fields.mapM (Field.summarize analyzers withPlaces) <;> rfl

/-- The analysis of a document succeeds if it has an id and each field can be summarized. -/
theorem analyzeDocument_eq_ok : analyzeDocument analyzers withPlaces document = .ok analyzed ↔
    ∃ id plain, document.id = some id ∧
      List.Forall₂ (fun field summary => Field.summarize analyzers withPlaces field = .ok summary)
        document.fields plain ∧
      analyzed = ⟨id, document,
        plain ++ document.composites.map (·.summarize (document.fields.zip plain))⟩ := by
  cases keyed : document.id with
  | none =>
    unfold analyzeDocument
    rw [keyed]
    exact iff_of_false nofun nofun
  | some id =>
    rw [analyzeDocument_of_id keyed]
    constructor
    · intro done
      cases plainDone : document.fields.mapM (Field.summarize analyzers withPlaces) with
      | error fault =>
        rw [plainDone] at done
        cases done
      | ok plain =>
        rw [plainDone] at done
        exact ⟨id, plain, rfl, mapM_eq_ok.mp plainDone, (Except.ok.inj done).symm⟩
    · rintro ⟨sameId, plain, hasId, plainDone, rfl⟩
      obtain rfl := Option.some.inj hasId
      rw [mapM_eq_ok.mpr plainDone]
      rfl

/-- With an id, it fails only if a field cannot be summarized. -/
theorem analyzeDocument_eq_error (keyed : document.id ≠ none) {fault : AnalyzerFault} :
    analyzeDocument analyzers withPlaces document = .error fault ↔
      document.fields.mapM (Field.summarize analyzers withPlaces) = .error fault := by
  obtain ⟨id, hasId⟩ := Option.ne_none_iff_exists'.mp keyed
  rw [analyzeDocument_of_id hasId]
  cases document.fields.mapM (Field.summarize analyzers withPlaces) with
  | error cause => simp [Except.map]
  | ok plain => exact iff_of_false nofun nofun

/-- The plain fields have the first summaries. -/
theorem zip_summaries {plain composed : List Summary}
    (sameLength : document.fields.length = plain.length) :
    document.fields.zip (plain ++ composed) = document.fields.zip plain := by
  have zipped := @List.zip_append _ _ document.fields [] plain composed sameLength
  rwa [List.append_nil, List.zip_nil_left, List.append_nil] at zipped

/-- Each plain field has its summary at its own place. -/
theorem summary_of_analyzeDocument
    (done : analyzeDocument analyzers withPlaces document = .ok analyzed) {slot : Nat}
    {field : Field} (held : document.fields[slot]? = some field) :
    ∃ summary, field.summarize analyzers withPlaces = .ok summary ∧
      analyzed.summaries[slot]? = some summary := by
  obtain ⟨_, plain, -, each, rfl⟩ := analyzeDocument_eq_ok.mp done
  obtain ⟨inRange, rfl⟩ := List.getElem?_eq_some_iff.mp held
  have alsoInRange : slot < plain.length := each.length_eq ▸ inRange
  refine ⟨plain[slot], each.get inRange alsoInRange, ?_⟩
  exact (List.getElem?_append_left alsoInRange).trans (List.getElem?_eq_getElem alsoInRange)

/-- Each composite field has its summary at its own place, after those of the plain fields. -/
theorem composed_of_analyzeDocument
    (done : analyzeDocument analyzers withPlaces document = .ok analyzed) {slot : Nat}
    {composite : CompositeField} (held : document.composites[slot]? = some composite) :
    analyzed.summaries[document.fields.length + slot]? =
      some (composite.summarize (document.fields.zip analyzed.summaries)) := by
  obtain ⟨_, plain, -, each, rfl⟩ := analyzeDocument_eq_ok.mp done
  have sameLength := each.length_eq
  rw [zip_summaries sameLength, sameLength, List.getElem?_append_right (Nat.le_add_right _ _),
    Nat.add_sub_cancel_left, List.getElem?_map, held]
  rfl

theorem document_of_analyzeDocument
    (done : analyzeDocument analyzers withPlaces document = .ok analyzed) :
    analyzed.document = document := by
  obtain ⟨_, _, -, -, rfl⟩ := analyzeDocument_eq_ok.mp done
  rfl

end Analyzed

end TextIndex
