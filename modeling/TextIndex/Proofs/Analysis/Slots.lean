import TextIndex.Proofs.Analysis.IdentityField
import TextIndex.Proofs.Analysis.TermCounts
import TextIndex.Proofs.Segment.Table
import TextIndex.Proofs.Totals

/-!
# Fields with several values

The fields of a document have slots, plain and composite ones, and names of plain fields may repeat.
What is indexed under a name is put together from all slots of that name: a term is indexed if one
of them has it, and its frequency and the length of the field are the sums over them.

* `AnalyzedDocument.Holds`, `AnalyzedDocument.frequencyOf`, `AnalyzedDocument.lengthOf`,
  `AnalyzedDocument.placesOf`: what the slots of one name come to.
* `AnalyzedDocument.isSome_posting?`, `AnalyzedDocument.posting?_eq_some`,
  `AnalyzedDocument.places_of_posting?`: what is indexed.
* `Summary.Hereditary.summaries`: what all summaries of an analyzed document have.
* `measured_of_analyzeDocument`: they are measured.
-/

namespace TextIndex

open TextIndex.Number

theorem flatMap_filter_of_nil {α β : Type} {keeps : α → Bool} {parts : α → List β} {list : List α}
    (nothing : ∀ value ∈ list, keeps value = false → parts value = []) :
    (list.filter keeps).flatMap parts = list.flatMap parts := by
  induction list with
  | nil => rfl
  | cons first rest ih =>
    rw [List.forall_mem_cons] at nothing
    cases kept : keeps first with
    | true => rw [List.filter_cons_of_pos kept, List.flatMap_cons, List.flatMap_cons, ih nothing.2]
    | false =>
      rw [List.filter_cons_of_neg (by simp [kept]), List.flatMap_cons, ih nothing.2,
        nothing.1 kept, List.nil_append]

namespace AnalyzedDocument

variable (analyzed : AnalyzedDocument) (field term : String)

/-- The slots of a name, plain and composite. -/
def slotsOf : List Slot :=
  analyzed.slots.filter (·.name = field)

/-- A slot of the name has the term. -/
def Holds : Prop :=
  ∃ slot ∈ analyzed.slotsOf field, slot.summary.terms.Has term

/-- How often a term occurs in all slots of a name. -/
def frequencyOf : Nat :=
  total ((analyzed.slotsOf field).map fun slot => (slot.summary.terms.countOf term).toNat)

/-- The tokens in all slots of a name. -/
def lengthOf : Nat :=
  total ((analyzed.slotsOf field).map (·.summary.length))

/-- Where a term occurs in the slots of a name, slot by slot. -/
def placesOf : List Place :=
  (analyzed.slotsOf field).flatMap fun slot => slot.summary.terms.placesOf term

end AnalyzedDocument

/-! ### Slots put together -/

/-- The terms of a summary, if there is one. -/
def termsOf (held : Option Summary) : TermTable :=
  held.elim ∅ (·.terms)

/-- The length of a summary, if there is one. -/
def tokensOf (held : Option Summary) : Nat :=
  held.elim 0 (·.length)

section Together

variable (slot : Slot) (held : Option Summary) (term : String)

theorem has_addTo : (termsOf (slot.addTo held)).Has term ↔
    (termsOf held).Has term ∨ slot.summary.terms.Has term := by
  cases held with
  | none => exact (or_iff_right (TermTable.not_has_empty term)).symm
  | some earlier => exact TermTable.has_merge _ _ _

theorem countOf_addTo : (termsOf (slot.addTo held)).countOf term =
    (termsOf held).countOf term + slot.summary.terms.countOf term := by
  cases held with
  | none =>
    rw [show (termsOf none).countOf term = 0 from TermTable.countOf_empty term, UInt64.zero_add]
    rfl
  | some earlier => exact TermTable.countOf_merge _ _ _

theorem placesOf_addTo : (termsOf (slot.addTo held)).placesOf term =
    (termsOf held).placesOf term ++ slot.summary.terms.placesOf term := by
  cases held with
  | none =>
    rw [show (termsOf none).placesOf term = [] from TermTable.placesOf_empty term, List.nil_append]
    rfl
  | some earlier => exact TermTable.placesOf_merge _ _ _

theorem tokensOf_addTo : tokensOf (slot.addTo held) = tokensOf held + slot.summary.length := by
  cases held with
  | none => exact (Nat.zero_add _).symm
  | some earlier => rfl

variable (slots : List Slot)

theorem has_foldl_addTo :
    (termsOf (slots.foldl (fun held slot => slot.addTo held) held)).Has term ↔
      (termsOf held).Has term ∨ ∃ slot ∈ slots, slot.summary.terms.Has term := by
  induction slots generalizing held with
  | nil => simp
  | cons first rest ih =>
    rw [List.foldl_cons, ih, has_addTo, List.exists_mem_cons_iff, or_assoc]

theorem countOf_foldl_addTo :
    (termsOf (slots.foldl (fun held slot => slot.addTo held) held)).countOf term =
      (termsOf held).countOf term +
        .ofNat (total (slots.map fun slot => (slot.summary.terms.countOf term).toNat)) := by
  induction slots generalizing held with
  | nil => exact (UInt64.add_zero _).symm
  | cons first rest ih =>
    rw [List.foldl_cons, ih, countOf_addTo, List.map_cons, total_cons, UInt64.ofNat_add,
      UInt64.ofNat_toNat, UInt64.add_assoc]

theorem placesOf_foldl_addTo :
    (termsOf (slots.foldl (fun held slot => slot.addTo held) held)).placesOf term =
      (termsOf held).placesOf term ++
        slots.flatMap fun slot => slot.summary.terms.placesOf term := by
  induction slots generalizing held with
  | nil => exact (List.append_nil _).symm
  | cons first rest ih =>
    rw [List.foldl_cons, ih, placesOf_addTo, List.flatMap_cons, List.append_assoc]

theorem tokensOf_foldl_addTo :
    tokensOf (slots.foldl (fun held slot => slot.addTo held) held) =
      tokensOf held + total (slots.map (·.summary.length)) := by
  induction slots generalizing held with
  | nil => rfl
  | cons first rest ih =>
    rw [List.foldl_cons, ih, tokensOf_addTo, List.map_cons, total_cons, Nat.add_assoc]

end Together

namespace AnalyzedDocument

variable {analyzed : AnalyzedDocument} {field term : String} {doc : Nat}

/-- What is indexed under a name is put together from the slots of that name that have terms. -/
theorem getElem?_byField (analyzed : AnalyzedDocument) (field : String) : analyzed.byField[field]? =
    ((analyzed.slotsOf field).filter fun slot => !slot.summary.terms.isEmpty).foldl
      (fun held slot => slot.addTo held) none := by
  rw [byField_eq_foldl, changesKey_addTo.foldl, Std.ExtTreeMap.getElem?_empty, List.filter_comm]
  rfl

theorem has_byField : (termsOf analyzed.byField[field]?).Has term ↔ analyzed.Holds field term := by
  have nothing : ¬(termsOf none).Has term := TermTable.not_has_empty term
  rw [getElem?_byField, has_foldl_addTo, or_iff_right nothing]
  unfold Holds
  constructor
  · rintro ⟨slot, member, has⟩
    exact ⟨slot, (List.mem_filter.mp member).1, has⟩
  · rintro ⟨slot, member, has⟩
    refine ⟨slot, List.mem_filter.mpr ⟨member, ?_⟩, has⟩
    rw [Bool.not_eq_true', ← Bool.not_eq_true, TermTable.isEmpty_iff]
    exact fun nothing => nothing term has

/-- Nothing is put together under a name without terms. -/
theorem exists_has_of_byField {summary : Summary} (held : analyzed.byField[field]? = some summary) :
    ∃ term, summary.terms.Has term := by
  have made := held
  rw [getElem?_byField] at made
  cases filled : (analyzed.slotsOf field).filter fun slot => !slot.summary.terms.isEmpty with
  | nil =>
    rw [filled] at made
    cases made
  | cons slot later =>
    obtain ⟨member, hasTerms⟩ := List.mem_filter.mp (filled ▸ List.mem_cons_self (l := later))
    have someTerm : ∃ term, slot.summary.terms.Has term := by
      by_contra none
      simp [TermTable.isEmpty_iff.mpr (not_exists.mp none)] at hasTerms
    obtain ⟨term, has⟩ := someTerm
    have shown : (termsOf analyzed.byField[field]?).Has term := has_byField.mpr ⟨slot, member, has⟩
    rw [held] at shown
    exact ⟨term, shown⟩

theorem countOf_byField :
    (termsOf analyzed.byField[field]?).countOf term = .ofNat (analyzed.frequencyOf field term) := by
  rw [getElem?_byField, countOf_foldl_addTo,
    show (termsOf none).countOf term = 0 from TermTable.countOf_empty term, UInt64.zero_add]
  unfold frequencyOf
  rw [total_filter]
  intro slot _ without
  rw [Bool.not_eq_false', TermTable.isEmpty_iff] at without
  have absent : slot.summary.terms.get? term = none :=
    Option.not_isSome_iff_eq_none.mp (without term)
  unfold TermTable.countOf
  rw [absent]
  rfl

/-- A slot without terms has no places either. -/
theorem placesOf_byField :
    (termsOf analyzed.byField[field]?).placesOf term = analyzed.placesOf field term := by
  rw [getElem?_byField, placesOf_foldl_addTo,
    show (termsOf none).placesOf term = [] from TermTable.placesOf_empty term, List.nil_append]
  unfold placesOf
  refine flatMap_filter_of_nil fun slot _ without => ?_
  rw [Bool.not_eq_false', TermTable.isEmpty_iff] at without
  have absent : slot.summary.terms.get? term = none :=
    Option.not_isSome_iff_eq_none.mp (without term)
  unfold TermTable.placesOf
  rw [absent]
  rfl

theorem tokensOf_byField (measured : ∀ slot ∈ analyzed.slots, slot.summary.Measured) :
    tokensOf analyzed.byField[field]? = analyzed.lengthOf field := by
  rw [getElem?_byField, tokensOf_foldl_addTo]
  unfold lengthOf
  rw [total_filter]
  · exact Nat.zero_add _
  · intro slot member without
    rw [Bool.not_eq_false'] at without
    exact (measured slot (List.mem_filter.mp member).1).empty without

/-- A term does not occur more often than there are tokens. -/
theorem frequencyOf_le (measured : ∀ slot ∈ analyzed.slots, slot.summary.Measured) :
    analyzed.frequencyOf field term ≤ analyzed.lengthOf field :=
  total_le_total fun slot member => (measured slot (List.mem_filter.mp member).1).counts term

/-! ### What is indexed -/

theorem posting?_eq : analyzed.posting? field term doc =
    ((termsOf analyzed.byField[field]?).get? term).map fun use =>
      ⟨doc, use.count.toUInt32, .ofNat (tokensOf analyzed.byField[field]?), use.places⟩ := by
  unfold posting?
  cases analyzed.byField[field]? with
  | none =>
    rw [show (termsOf none).get? term = none from TermTable.get?_empty term]
    rfl
  | some summary => rfl

/-- A term is indexed if a slot of the name has it. -/
theorem isSome_posting? :
    (analyzed.posting? field term doc).isSome ↔ analyzed.Holds field term := by
  rw [posting?_eq, Option.isSome_map, ← has_byField]
  rfl

/-- It is indexed with the sums over the slots of the name. -/
theorem posting?_eq_some (measured : ∀ slot ∈ analyzed.slots, slot.summary.Measured)
    {posting : Posting} (held : analyzed.posting? field term doc = some posting) :
    posting.frequency = .ofNat (analyzed.frequencyOf field term) ∧
      posting.fieldLength = .ofNat (analyzed.lengthOf field) := by
  rw [posting?_eq] at held
  obtain ⟨use, isUse, rfl⟩ := Option.map_eq_some_iff.mp held
  have counted : use.count = .ofNat (analyzed.frequencyOf field term) := by
    rw [← countOf_byField]
    unfold TermTable.countOf
    rw [isUse]
    rfl
  refine ⟨?_, congrArg UInt32.ofNat (tokensOf_byField measured)⟩
  show use.count.toUInt32 = _
  rw [counted, UInt64.toUInt32_ofNat']

/-- It is indexed with the places in these slots. -/
theorem places_of_posting? {posting : Posting}
    (held : analyzed.posting? field term doc = some posting) :
    posting.places = analyzed.placesOf field term := by
  rw [posting?_eq] at held
  obtain ⟨use, isUse, rfl⟩ := Option.map_eq_some_iff.mp held
  rw [← placesOf_byField]
  unfold TermTable.placesOf
  rw [isUse]
  rfl

end AnalyzedDocument

/-! ### The slots of an analyzed document -/

/-- A property that the summaries of tokens have, and that is kept when a field is taken up into a
composite one. -/
structure Summary.Hereditary (holds : Summary → Prop) : Prop where
  empty : holds .empty
  ofTokens : ∀ withPlaces tokens, holds (.ofTokens withPlaces tokens)
  mergeFrom : ∀ {summary other : Summary}, holds summary → holds other →
    ∀ field, holds (summary.mergeFrom field other)

namespace Summary.Hereditary

variable {holds : Summary → Prop} (hereditary : Summary.Hereditary holds)
  {analyzers : FieldAnalyzers} {withPlaces : Bool}

include hereditary

theorem plain {field : Field} {summary : Summary}
    (done : field.summarize analyzers withPlaces = .ok summary) : holds summary := by
  unfold Field.summarize at done
  split at done
  · split at done
    · obtain rfl := Except.ok.inj done
      exact hereditary.ofTokens _ _
    · cases done
  · obtain rfl := Except.ok.inj done
    exact hereditary.empty

theorem composed (composite : CompositeField) {sources : List (Field × Summary)}
    (all : ∀ source ∈ sources, holds source.2) : holds (composite.summarize sources) := by
  have general : ∀ (sources : List (Field × Summary)) (summary : Summary), holds summary →
      (∀ source ∈ sources, holds source.2) → holds (sources.foldl (fun summary source =>
        summary.mergeFrom source.1.name source.2) summary) := by
    intro sources
    induction sources with
    | nil => exact fun _ start _ => start
    | cons first rest ih =>
      intro summary start all
      rw [List.forall_mem_cons] at all
      exact ih _ (hereditary.mergeFrom start all.1 first.1.name) all.2
  exact general _ _ hereditary.empty fun source member =>
    all source (List.mem_filter.mp member).1

/-- **All summaries of an analyzed document have a hereditary property.** -/
theorem summaries {document : Document} {analyzed : AnalyzedDocument}
    (done : analyzeDocument analyzers withPlaces document = .ok analyzed) :
    ∀ summary ∈ analyzed.summaries, holds summary := by
  obtain ⟨_, plain, -, each, rfl⟩ := analyzeDocument_eq_ok.mp done
  have plainHold := forall_mem_of_forall₂ each hereditary.plain
  intro summary member
  rcases List.mem_append.mp member with isPlain | isComposed
  · exact plainHold summary isPlain
  · obtain ⟨composite, -, rfl⟩ := List.mem_map.mp isComposed
    exact hereditary.composed composite fun source inZip =>
      plainHold source.2 (List.of_mem_zip inZip).2

theorem slots {document : Document} {analyzed : AnalyzedDocument}
    (done : analyzeDocument analyzers withPlaces document = .ok analyzed) :
    ∀ slot ∈ analyzed.slots, holds slot.summary :=
  fun slot member => hereditary.summaries done slot.summary (of_mem_zipWith member).2

end Summary.Hereditary

theorem Summary.hereditary_measured : Summary.Hereditary Summary.Measured where
  empty := measured_empty
  ofTokens := measured_ofTokens
  mergeFrom := Measured.mergeFrom

/-- The slots of an analyzed document are measured. -/
theorem measured_of_analyzeDocument {analyzers : FieldAnalyzers} {withPlaces : Bool}
    {document : Document} {analyzed : AnalyzedDocument}
    (done : analyzeDocument analyzers withPlaces document = .ok analyzed) :
    ∀ slot ∈ analyzed.slots, slot.summary.Measured :=
  Summary.hereditary_measured.slots done

end TextIndex
