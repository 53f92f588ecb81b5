import TextIndex.Proofs.Analysis.Documents
import TextIndex.Proofs.Number.Digits
import TextIndex.Proofs.Text.Utf8

/-!
# What cannot be analyzed

A field that is to be indexed is refused if its value is null, a number that is not finite, bytes
that are no text, or a text that its analyzer gives an error for. The analysis of a document with an
id fails exactly if some field is refused, and the error names the first one. Any other field is
indexed, or passed over, whatever the analyzers and the composite fields are.

* `Value.Spells`: the text that a value other than running text stands for.
* `Field.Refused`: that a field cannot be analyzed, and why.
* `Document.Blames`: the first field that is refused.
* `analyzeDocument_refuses`: when the analysis fails, with which error, and what it gives otherwise.
-/

namespace TextIndex

open TextIndex.Text TextIndex.Number

/-- The analyzers return, with tokens or with an error. -/
def FieldAnalyzers.Return (analyzers : FieldAnalyzers) : Prop :=
  ∀ field text words, analyzers.analyzeField field text ≠ .error (.crashed words)

/-- The text that a value stands for. Neither null nor a number that is not finite stands for one,
and bytes only for the text that they are the UTF-8 form of. Running text is left to an analyzer. -/
inductive Value.Spells : Value → String → Prop
  | bool (value : Bool) : Spells (.bool value) (toString value)
  | int (value : Int64) : Spells (.int value) (toString value.toInt)
  | float {value : Binary64} (finite : value.isFinite = true) :
    Spells (.float value) value.termText
  | keyword (words : String) : Spells (.keyword words) words
  | instant (moment : Time.Instant) :
    Spells (.instant moment) (String.ofList (moment.stamp .digits))
  | bytes {content : List UInt8} {words : String} (form : words.toUTF8 = content.toByteArray) :
    Spells (.bytes content) words

/-- Why a value cannot be indexed in a field of the given name. -/
inductive Value.Refused (analyzers : FieldAnalyzers) (name : String) : Value → IndexError → Prop
  | null : Refused analyzers name .null (.analysis .nullValue)
  | float {value : Binary64} (special : value.isFinite = false) :
    Refused analyzers name (.float value) (.analysis (.nonFinite value))
  | bytes {content : List UInt8} {fault : Utf8.Fault}
    (noText : ¬content.toByteArray.IsValidUTF8) (found : Utf8.decode content = .error fault) :
    Refused analyzers name (.bytes content) (.analysis (.malformed fault))
  | text {words : String} {error : IndexError}
    (failed : analyzers.analyzeField name words = .error (.failed error)) :
    Refused analyzers name (.text words) error

/-- A field is refused if it is to be indexed and its value cannot be. -/
def Field.Refused (analyzers : FieldAnalyzers) (field : Field) (cause : IndexError) : Prop :=
  field.options.indexed = true ∧ field.value.Refused analyzers field.name cause

/-- No analyzer is needed for a field that is not indexed or whose value stands for a text. -/
def Field.Plain (field : Field) : Prop :=
  field.options.indexed = false ∨ ∃ text, field.value.Spells text

/-- A summary tells of one token, which is the whole of a text. -/
structure Summary.IsWhole (summary : Summary) (withPlaces : Bool) (text : String) : Prop where
  length : summary.length = 1
  terms : summary.terms.toList =
    [(text, ⟨1, if withPlaces then [⟨none, 0, 0, text.utf8ByteSize⟩] else []⟩)]

/-- An error without its kind, if that is the kind of the analysis. -/
def IndexError.reason : IndexError → String
  | .analysis fault => fault.message
  | error => error.message

/-- An error of the kind of the analysis names a field and says what is wrong with it. -/
structure IndexError.Names (error : IndexError) (field : Field) (cause : IndexError) : Prop where
  kind : error = .analysis (.inField field.name cause)
  message : error.message =
    "Analysis error: " ++ ("field '" ++ field.name ++ "': " ++ cause.reason)

/-- An error blames the first field of a document that is refused. -/
def Document.Blames (analyzers : FieldAnalyzers) (document : Document) (error : IndexError) :
    Prop :=
  ∃ before field after cause, document.fields = before ++ field :: after ∧
    field.Refused analyzers cause ∧
    (∀ earlier ∈ before, ∀ other, ¬earlier.Refused analyzers other) ∧ error.Names field cause

/-! ### One value -/

theorem boolText_eq (value : Bool) : Value.boolText value = toString value := by
  cases value <;> rfl

/-- A value other than running text has one term, which is the text that it stands for. -/
theorem Value.term?_eq_ok {value : Value} {term : String} (noText : ∀ words, value ≠ .text words) :
    value.term? = .ok term ↔ value.Spells term := by
  constructor
  · intro done
    cases value with
    | null => cases done
    | bool value =>
      obtain rfl := Except.ok.inj done
      rw [boolText_eq]
      exact .bool value
    | int value =>
      obtain rfl := Except.ok.inj done
      rw [ofList_signedDecimal]
      exact .int value
    | float value =>
      simp only [Value.term?] at done
      split at done
      · next finite =>
        obtain rfl := Except.ok.inj done
        exact .float finite
      · cases done
    | keyword words =>
      obtain rfl := Except.ok.inj done
      exact .keyword words
    | text words => exact absurd rfl (noText words)
    | instant moment =>
      obtain rfl := Except.ok.inj done
      exact .instant moment
    | bytes content =>
      simp only [Value.term?] at done
      cases read : Utf8.decode content with
      | error fault =>
        rw [read] at done
        cases done
      | ok words =>
        rw [read] at done
        obtain rfl := Except.ok.inj done
        exact .bytes (Utf8.decode_eq_ok_iff.mp read)
  · intro spells
    cases spells with
    | bool value => exact congrArg Except.ok (boolText_eq value)
    | int value => exact congrArg Except.ok (ofList_signedDecimal value.toInt)
    | float finite => exact if_pos finite
    | keyword words => rfl
    | instant moment => rfl
    | bytes form =>
      rw [Value.term?, Utf8.decode_eq_ok_iff.mpr form]
      rfl

/-- It has none exactly if it cannot be indexed. -/
theorem Value.term?_eq_error {analyzers : FieldAnalyzers} {name : String} {value : Value}
    {cause : IndexError} (noText : ∀ words, value ≠ .text words) :
    (∃ fault, value.term? = .error fault ∧ cause = .analysis fault) ↔
      value.Refused analyzers name cause := by
  constructor
  · rintro ⟨fault, failed, rfl⟩
    cases value with
    | null =>
      obtain rfl := Except.error.inj failed
      exact .null
    | float value =>
      simp only [Value.term?] at failed
      split at failed
      · cases failed
      · next special =>
        obtain rfl := Except.error.inj failed
        exact .float (Bool.eq_false_iff.mpr special)
    | text words => exact absurd rfl (noText words)
    | bytes content =>
      simp only [Value.term?] at failed
      cases read : Utf8.decode content with
      | error fault =>
        rw [read] at failed
        obtain rfl := Except.error.inj failed
        exact .bytes (Utf8.exists_decode_eq_error_iff.mp ⟨fault, read⟩) read
      | ok words =>
        rw [read] at failed
        cases failed
    | bool | int | keyword | instant => cases failed
  · intro refused
    cases refused with
    | null => exact ⟨_, rfl, rfl⟩
    | float special => exact ⟨_, if_neg (by simp [special]), rfl⟩
    | bytes _ found =>
      refine ⟨_, ?_, rfl⟩
      rw [Value.term?, found]
      rfl
    | text => exact absurd rfl (noText _)

/-! ### One field -/

theorem Summary.isWhole_ofTokens (withPlaces : Bool) (text : String) :
    (ofTokens withPlaces [Analyzer.wholeToken text]).IsWhole withPlaces text :=
  ⟨rfl, rfl⟩

namespace Field

variable {analyzers : FieldAnalyzers} {withPlaces : Bool} {field : Field}

theorem tokens_text {words : String} (isText : field.value = .text words) :
    field.tokens analyzers = analyzers.analyzeField field.name words := by
  unfold tokens
  rw [isText]

theorem tokens_of_not_text (noText : ∀ words, field.value ≠ .text words) :
    field.tokens analyzers = match field.value.term? with
      | .ok term => .ok [Analyzer.wholeToken term]
      | .error fault => .error (.failed (.analysis fault)) := by
  unfold tokens
  split
  · next words isText => exact absurd isText (noText words)
  · rfl

/-- There are no tokens exactly if the value cannot be indexed. -/
theorem tokens_eq_error (returns : analyzers.Return) {fault : AnalyzerFault} :
    field.tokens analyzers = .error fault ↔
      ∃ cause, field.value.Refused analyzers field.name cause ∧ fault = .failed cause := by
  by_cases isText : ∃ words, field.value = .text words
  · obtain ⟨words, isText⟩ := isText
    rw [tokens_text isText, isText]
    constructor
    · intro failed
      cases fault with
      | failed cause => exact ⟨cause, .text failed, rfl⟩
      | crashed last => exact absurd failed (returns _ _ _)
    · rintro ⟨cause, refused, rfl⟩
      cases refused with
      | text failed => exact failed
  · have noText := not_exists.mp isText
    rw [tokens_of_not_text noText]
    simp only [← Value.term?_eq_error noText]
    cases field.value.term? with
    | ok term => simp
    | error cause => simp [eq_comm]

theorem summarize_eq_error (returns : analyzers.Return) {fault : AnalyzerFault} :
    field.summarize analyzers withPlaces = .error fault ↔
      ∃ cause, field.Refused analyzers cause ∧
        fault = .failed (.analysis (.inField field.name cause)) := by
  unfold summarize Refused
  by_cases indexed : field.options.indexed = true
  · rw [if_pos indexed]
    constructor
    · intro failed
      cases made : field.tokens analyzers with
      | ok tokens =>
        rw [made] at failed
        cases failed
      | error earlier =>
        obtain ⟨cause, refused, rfl⟩ := (tokens_eq_error returns).mp made
        rw [made] at failed
        exact ⟨cause, ⟨indexed, refused⟩, (Except.error.inj failed).symm⟩
    · rintro ⟨cause, ⟨-, refused⟩, rfl⟩
      rw [(tokens_eq_error returns).mpr ⟨cause, refused, rfl⟩]
      rfl
  · rw [if_neg indexed]
    simp [indexed]

/-- A field is summarized unless it is refused. -/
theorem exists_summarize_eq_ok (returns : analyzers.Return) :
    (∃ summary, field.summarize analyzers withPlaces = .ok summary) ↔
      ∀ cause, ¬field.Refused analyzers cause := by
  constructor
  · rintro ⟨summary, done⟩ cause refused
    rw [(summarize_eq_error returns).mpr ⟨cause, refused, rfl⟩] at done
    cases done
  · intro fine
    cases done : field.summarize analyzers withPlaces with
    | ok summary => exact ⟨summary, rfl⟩
    | error fault =>
      obtain ⟨cause, refused, -⟩ := (summarize_eq_error returns).mp done
      exact absurd refused (fine cause)

theorem summarize_of_spells (indexed : field.options.indexed = true) {text : String}
    (spells : field.value.Spells text) : field.summarize analyzers withPlaces =
      .ok (.ofTokens withPlaces [Analyzer.wholeToken text]) := by
  have noText : ∀ words, field.value ≠ .text words := by
    intro words isText
    rw [isText] at spells
    cases spells
  unfold summarize
  rw [if_pos indexed, tokens_of_not_text noText, (Value.term?_eq_ok noText).mpr spells]

/-- The value of a field that is indexed, other than running text, is one token. -/
theorem isWhole_of_summarize {summary : Summary} (indexed : field.options.indexed = true)
    (noText : ∀ words, field.value ≠ .text words)
    (done : field.summarize analyzers withPlaces = .ok summary) :
    ∃ text, field.value.Spells text ∧ summary.IsWhole withPlaces text := by
  unfold summarize at done
  rw [if_pos indexed, tokens_of_not_text noText] at done
  cases made : field.value.term? with
  | ok term =>
    rw [made] at done
    obtain rfl := Except.ok.inj done
    exact ⟨term, (Value.term?_eq_ok noText).mp made, Summary.isWhole_ofTokens withPlaces term⟩
  | error fault =>
    rw [made] at done
    cases done

/-- Whatever the analyzers are, a plain field is summarized. -/
theorem Plain.summarize (plain : field.Plain) (analyzers : FieldAnalyzers) (withPlaces : Bool) :
    ∃ summary, field.summarize analyzers withPlaces = .ok summary := by
  rcases plain with passedOver | ⟨text, spells⟩
  · refine ⟨.empty, ?_⟩
    unfold Field.summarize
    rw [if_neg (by simp [passedOver])]
  · cases indexed : field.options.indexed with
    | false =>
      refine ⟨.empty, ?_⟩
      unfold Field.summarize
      rw [if_neg (by simp [indexed])]
    | true => exact ⟨_, summarize_of_spells indexed spells⟩

end Field

/-! ### A whole document -/

theorem IndexError.message_inField (field : String) (cause : IndexError) :
    (IndexError.analysis (.inField field cause)).message =
      "Analysis error: " ++ ("field '" ++ field ++ "': " ++ cause.reason) := by
  cases cause <;> rfl

theorem IndexError.names_inField (field : Field) (cause : IndexError) :
    (IndexError.analysis (.inField field.name cause)).Names field cause :=
  ⟨rfl, message_inField field.name cause⟩

section Documents

variable {analyzers : FieldAnalyzers} {withPlaces : Bool} {document : Document}

/-- The analysis is not even begun for a document without an id, and only then does the argument
count as wrong. -/
theorem analyzeDocument_eq_argument (returns : analyzers.Return) :
    (∃ fault, analyzeDocument analyzers withPlaces document = .error (.failed (.argument fault))) ↔
      document.id = none := by
  constructor
  · rintro ⟨fault, failed⟩
    by_contra keyed
    rw [analyzeDocument_eq_error keyed, mapM_eq_error] at failed
    obtain ⟨_, field, _, -, -, refused⟩ := failed
    obtain ⟨cause, -, wrong⟩ := (Field.summarize_eq_error returns).mp refused
    cases wrong
  · intro absent
    refine ⟨.documentWithoutId, ?_⟩
    unfold analyzeDocument
    rw [absent]

/-- Otherwise the error is that of the first field that is refused. -/
theorem analyzeDocument_eq_error_iff_blames (returns : analyzers.Return)
    (keyed : document.id ≠ none) {fault : AnalyzerFault} :
    analyzeDocument analyzers withPlaces document = .error fault ↔
      ∃ error, document.Blames analyzers error ∧ fault = .failed error := by
  rw [analyzeDocument_eq_error keyed, mapM_eq_error]
  simp only [Field.exists_summarize_eq_ok returns, Field.summarize_eq_error returns]
  constructor
  · rintro ⟨before, field, after, split, fine, cause, refused, rfl⟩
    exact ⟨_, ⟨before, field, after, cause, split, refused, fine,
      IndexError.names_inField field cause⟩, rfl⟩
  · rintro ⟨error, ⟨before, field, after, cause, split, refused, fine, names⟩, rfl⟩
    exact ⟨before, field, after, split, fine, cause, refused, by rw [names.kind]⟩

/-- With an id, the analysis fails exactly if some field is refused. -/
theorem exists_analyzeDocument_eq_error (returns : analyzers.Return)
    (keyed : document.id ≠ none) :
    (∃ fault, analyzeDocument analyzers withPlaces document = .error fault) ↔
      ∃ field ∈ document.fields, ∃ cause, field.Refused analyzers cause := by
  constructor
  · rintro ⟨fault, failed⟩
    obtain ⟨_, ⟨before, field, after, cause, split, refused, -⟩, -⟩ :=
      (analyzeDocument_eq_error_iff_blames returns keyed).mp failed
    exact ⟨field, by simp [split], cause, refused⟩
  · rintro ⟨field, member, cause, refused⟩
    cases done : analyzeDocument analyzers withPlaces document with
    | error fault => exact ⟨fault, rfl⟩
    | ok analyzed =>
      obtain ⟨slot, held⟩ := List.mem_iff_getElem?.mp member
      obtain ⟨summary, summarized, -⟩ := summary_of_analyzeDocument done held
      exact absurd refused ((Field.exists_summarize_eq_ok returns).mp ⟨summary, summarized⟩ cause)

/-- A plain field has no part in whether and how the analysis fails, and neither have the composite
fields. -/
theorem analyzeDocument_eq_error_without {before after : List Field} {field : Field}
    (plain : field.Plain) (split : document.fields = before ++ field :: after)
    (composites : List CompositeField) {fault : AnalyzerFault} :
    analyzeDocument analyzers withPlaces document = .error fault ↔
      analyzeDocument analyzers withPlaces ⟨document.id, before ++ after, composites⟩ =
        .error fault := by
  cases keyed : document.id with
  | none =>
    unfold analyzeDocument
    rw [keyed]
  | some id =>
    obtain ⟨summary, summarized⟩ := plain.summarize analyzers withPlaces
    rw [analyzeDocument_eq_error (by simp [keyed]), analyzeDocument_eq_error (by simp), split]
    exact mapM_insert_eq_error summarized

/-- **The analysis fails exactly when it should, and blames the right field.** For a document
without an id, the argument is wrong. Otherwise the analysis fails exactly if some field is refused,
and the error names the first one. Plain fields have no part in it, even if analyzers crash, and
neither have composite fields. If the analysis succeeds, then the value of an indexed field other
than running text is one token, which is the whole of the text that the value stands for. -/
theorem analyzeDocument_refuses (returns : analyzers.Return) (withPlaces : Bool)
    (document : Document) :
    ((∃ fault, analyzeDocument analyzers withPlaces document = .error (.failed (.argument fault))) ↔
        document.id = none) ∧
      (document.id ≠ none →
        ((∃ fault, analyzeDocument analyzers withPlaces document = .error fault) ↔
          ∃ field ∈ document.fields, ∃ cause, field.Refused analyzers cause) ∧
        ∀ fault, analyzeDocument analyzers withPlaces document = .error fault ↔
          ∃ error, document.Blames analyzers error ∧ fault = .failed error) ∧
      (∀ (others : FieldAnalyzers) (composites : List CompositeField) (before after : List Field)
        (field : Field), field.Plain → document.fields = before ++ field :: after →
          ∀ fault, analyzeDocument others withPlaces document = .error fault ↔
            analyzeDocument others withPlaces ⟨document.id, before ++ after, composites⟩ =
              .error fault) ∧
      ∀ analyzed, analyzeDocument analyzers withPlaces document = .ok analyzed →
        ∀ (slot : Nat) (field : Field), document.fields[slot]? = some field →
          field.options.indexed = true → (∀ words, field.value ≠ .text words) →
            ∃ text summary, field.value.Spells text ∧ analyzed.summaries[slot]? = some summary ∧
              summary.IsWhole withPlaces text := by
  refine ⟨analyzeDocument_eq_argument returns, fun keyed => ⟨?_, fun fault => ?_⟩, ?_, ?_⟩
  · exact exists_analyzeDocument_eq_error returns keyed
  · exact analyzeDocument_eq_error_iff_blames returns keyed
  · intro others composites before after field plain split fault
    exact analyzeDocument_eq_error_without plain split composites
  · intro analyzed done slot field held indexed noText
    obtain ⟨summary, summarized, atSlot⟩ := summary_of_analyzeDocument done held
    obtain ⟨text, spells, whole⟩ := Field.isWhole_of_summarize indexed noText summarized
    exact ⟨text, summary, spells, atSlot, whole⟩

/-- Keywords, but for titles, whose analyzer has lost its dictionary. -/
def withoutDictionary : FieldAnalyzers :=
  (FieldAnalyzers.of .keyword).insert "title"
    ⟨"dictionary", fun _ => .error (.failed (.other "dictionary unavailable"))⟩

theorem analyzeField_withoutDictionary (field text : String) :
    withoutDictionary.analyzeField field text = if field = "title" then
      .error (.failed (.other "dictionary unavailable")) else .ok [Analyzer.wholeToken text] := by
  unfold FieldAnalyzers.analyzeField FieldAnalyzers.analyzerOf withoutDictionary
    FieldAnalyzers.insert FieldAnalyzers.of
  by_cases reserved : field = identityName
  · rw [if_pos reserved, reserved, if_neg (by decide)]
    rfl
  · rw [if_neg reserved, Std.ExtTreeMap.getD_insert]
    by_cases title : field = "title"
    · simp [title]
    · rw [if_neg fun equal => title (Std.LawfulEqCmp.eq_of_compare equal).symm, if_neg title,
        Std.ExtTreeMap.getD_empty]
      rfl

/-- A null that is not indexed, a year, a title, and a score that is no number. -/
def scoredTitle : Document where
  id := some "doc1"
  fields := [⟨"note", .null, ⟨false, true, true⟩⟩, ⟨"year", .int 2024, {}⟩,
    ⟨"title", .text "rust", {}⟩, ⟨"score", .float .nan, {}⟩]

/-- The title is blamed: the null before it is not indexed, and the score comes after it. Without
these two the year is one token. -/
theorem analyzeDocument_refuses_scoredTitle :
    withoutDictionary.Return ∧ scoredTitle.id ≠ none ∧
      analyzeDocument withoutDictionary true scoredTitle =
        .error (.failed (.analysis (.inField "title" (.other "dictionary unavailable")))) ∧
      (IndexError.analysis (.inField "title" (.other "dictionary unavailable"))).message =
        "Analysis error: field 'title': dictionary unavailable" ∧
      ∃ analyzed summary, analyzeDocument withoutDictionary true
          { scoredTitle with fields := scoredTitle.fields.take 2 } = .ok analyzed ∧
        analyzed.summaries[1]? = some summary ∧ summary.IsWhole true "2024" := by
  have returns : withoutDictionary.Return := by
    intro field text words
    rw [analyzeField_withoutDictionary]
    split <;> simp
  have keyed : scoredTitle.id ≠ none := by simp [scoredTitle]
  let title : Field := ⟨"title", .text "rust", {}⟩
  have refused : title.Refused withoutDictionary (.other "dictionary unavailable") :=
    ⟨rfl, .text ((analyzeField_withoutDictionary _ _).trans (if_pos rfl))⟩
  have fine : ∀ earlier ∈ scoredTitle.fields.take 2, ∀ other,
      ¬earlier.Refused withoutDictionary other := by
    rintro earlier member other ⟨indexed, unreadable⟩
    simp only [scoredTitle, List.take_succ_cons, List.take_zero, List.mem_cons,
      List.not_mem_nil, or_false] at member
    rcases member with rfl | rfl
    · cases indexed
    · cases unreadable
  have blamed : scoredTitle.Blames withoutDictionary
      (.analysis (.inField "title" (.other "dictionary unavailable"))) :=
    ⟨scoredTitle.fields.take 2, title, scoredTitle.fields.drop 3, _, rfl, refused, fine,
      IndexError.names_inField title _⟩
  obtain ⟨-, ends, -⟩ := analyzeDocument_refuses returns true scoredTitle
  refine ⟨returns, keyed, ((ends keyed).2 _).mpr ⟨_, blamed, rfl⟩, by decide, ?_⟩
  let untitled : Document := { scoredTitle with fields := scoredTitle.fields.take 2 }
  obtain ⟨-, endsAlso, -, tokens⟩ := analyzeDocument_refuses returns true untitled
  cases done : analyzeDocument withoutDictionary true untitled with
  | error fault =>
    obtain ⟨field, member, cause, unreadable⟩ := (endsAlso keyed).1.mp ⟨fault, done⟩
    exact absurd unreadable (fine field member cause)
  | ok analyzed =>
    obtain ⟨text, summary, spells, atSlot, whole⟩ :=
      tokens analyzed done 1 ⟨"year", .int 2024, {}⟩ rfl rfl nofun
    obtain rfl : "2024" = text := by
      cases spells
      decide
    exact ⟨analyzed, summary, rfl, atSlot, whole⟩

end Documents

end TextIndex
