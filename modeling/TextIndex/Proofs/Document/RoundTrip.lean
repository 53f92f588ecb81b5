import TextIndex.Document.Json
import TextIndex.Proofs.Json.Structures
import TextIndex.Proofs.Time.Stamp

/-!
# Documents found again from their JSON

What is written for a document is read as that document. Two kinds of value are set apart: doubles,
of which those that are not finite are written as null, and instants in a leap second.

* `Value.Portable`, `Document.Portable`: neither occurs.
* `Value.ofJson?_toJson`, `Field.ofJson?_toJson`, `CompositeField.ofJson?_toJson`,
  `Document.ofJson?_toJson`: structures are read as they were written.
* `Document.ofJson?_parse?_render`: a document is found again from its text.
-/

namespace TextIndex

open TextIndex.Time

/-! ### Values -/

namespace Value

/-- Whether a value is neither a double nor an instant in a leap second. -/
def Portable : Value → Prop
  | float _ => False
  | instant moment => moment.nanos < nanosPerSecond
  | null | bool _ | int _ | keyword _ | text _ | bytes _ => True

instance : DecidablePred Portable
  | float _ => .isFalse id
  | instant moment => inferInstanceAs (Decidable (moment.nanos < nanosPerSecond))
  | null | bool _ | int _ | keyword _ | text _ | bytes _ => .isTrue trivial

theorem written_toJson {value : Value} (portable : value.Portable) : value.toJson.Written := by
  have tagged {name : String} {content : Json} (written : content.Written) :
      (Json.tagged name content).Written :=
    Json.written_structured (by simpa using written)
  cases value with
  | null => exact Json.written_string _
  | bool value => exact tagged (.bool value)
  | int value => exact tagged (Json.written_integer _)
  | float value => exact portable.elim
  | keyword words => exact tagged (Json.written_string _)
  | text words => exact tagged (Json.written_string _)
  | instant moment => exact tagged (Json.written_string _)
  | bytes content =>
    exact tagged (Json.written_array_map fun byte _ => Json.written_integer _)

theorem ofJson?_tagged {kind : String} (notNull : kind ≠ "Null") (content : Json) :
    ofJson? (.tagged kind content) = ofCase? kind content := by
  unfold ofJson?
  rw [Json.choice?_tagged]
  split <;> simp_all

theorem list?_bytes (content : List UInt8) :
    (Json.array (content.map fun byte => .integer byte.toNat)).list? (Json.integer? 0 255) =
      some (content.map fun byte => (byte.toNat : Int)) := by
  have written : (content.map fun byte => Json.integer byte.toNat) =
      (content.map fun byte => (byte.toNat : Int)).map Json.integer := by
    rw [List.map_map]
    rfl
  rw [written]
  refine Json.list?_map fun value member => ?_
  obtain ⟨byte, -, rfl⟩ := List.mem_map.mp member
  have small := byte.toNat_lt
  exact Json.integer?_integer (Int.natCast_nonneg _) (by omega)

/-- **A value is read as it was written.** -/
theorem ofJson?_toJson {value : Value} (portable : value.Portable) :
    ofJson? value.toJson = some value := by
  cases value with
  | null =>
    unfold toJson ofJson?
    rw [Json.choice?_string]
    rfl
  | bool value => exact ofJson?_tagged (by decide) _
  | int value =>
    have bounded := Json.integer?_integer value.minValue_le_toInt value.toInt_le
    rw [toJson, ofJson?_tagged (by decide)]
    simp only [ofCase?, bounded, Option.map_some, Int64.ofInt_toInt]
  | float value => exact portable.elim
  | keyword words => simp [toJson, ofJson?_tagged, ofCase?, Json.string?_string]
  | text words => simp [toJson, ofJson?_tagged, ofCase?, Json.string?_string]
  | instant moment =>
    have stamped := Instant.ofStamp?_stamp portable
    simp [toJson, ofJson?_tagged, ofCase?, Json.string?_string, stamped]
  | bytes content =>
    simp [toJson, ofJson?_tagged, ofCase?, list?_bytes, Function.comp_def]

end Value

/-! ### Structures -/

namespace FieldOptions

theorem written_toJson (options : FieldOptions) : options.toJson.Written :=
  Json.written_structured (by simp [Json.Written.bool])

theorem ofJson?_toJson (options : FieldOptions) : ofJson? options.toJson = some options := by
  unfold toJson ofJson?
  rw [Json.record?_structured (by simp) (by simp)]
  simp [Record.required, Record.find?, Json.bool?]

end FieldOptions

namespace Field

theorem written_toJson {field : Field} (portable : field.value.Portable) :
    field.toJson.Written :=
  Json.written_structured (by
    simp [Json.written_string, Value.written_toJson portable, FieldOptions.written_toJson])

theorem ofJson?_toJson {field : Field} (portable : field.value.Portable) :
    ofJson? field.toJson = some field := by
  unfold toJson ofJson?
  rw [Json.record?_structured (by simp) (by simp)]
  simp [Record.required, Record.find?, Json.string?_string, Value.ofJson?_toJson portable,
    FieldOptions.ofJson?_toJson]

end Field

namespace CompositeField

theorem written_toJson (composite : CompositeField) : composite.toJson.Written := by
  have names (list : List String) : (Json.array (list.map .string)).Written :=
    Json.written_array_map fun name _ => Json.written_string name
  exact Json.written_structured (by simp [Json.written_string, names])

theorem ofJson?_toJson (composite : CompositeField) :
    ofJson? composite.toJson = some composite := by
  have names (list : List String) :
      (Json.array (list.map .string)).list? Json.string? = some list :=
    Json.list?_map fun name _ => Json.string?_string name
  unfold toJson ofJson?
  rw [Json.record?_structured (by simp) (by simp)]
  simp [Record.required, Record.orDefault, Record.find?, Json.string?_string, names]

end CompositeField

namespace Document

/-- Whether no field holds a double or an instant in a leap second. -/
def Portable (document : Document) : Prop :=
  ∀ field ∈ document.fields, field.value.Portable

instance (document : Document) : Decidable document.Portable :=
  inferInstanceAs (Decidable (∀ field ∈ document.fields, field.value.Portable))

theorem written_toJson {document : Document} (portable : document.Portable) :
    document.toJson.Written := by
  have id : (Json.nullable .string document.id).Written := by
    cases document.id with
    | none => exact .null
    | some id => exact Json.written_string id
  have fields : (Json.array (document.fields.map Field.toJson)).Written :=
    Json.written_array_map fun field member => Field.written_toJson (portable field member)
  have composites : (Json.array (document.composites.map CompositeField.toJson)).Written :=
    Json.written_array_map fun composite _ => composite.written_toJson
  exact Json.written_structured (by simp [id, fields, composites])

/-- **A document is read as it was written.** -/
theorem ofJson?_toJson {document : Document} (portable : document.Portable) :
    ofJson? document.toJson = some document := by
  have id : Json.nullable? Json.string? (Json.nullable .string document.id) = some document.id :=
    Json.nullable?_nullable Json.string?_string nofun document.id
  have fields : (Json.array (document.fields.map Field.toJson)).list? Field.ofJson? =
      some document.fields :=
    Json.list?_map fun field member => Field.ofJson?_toJson (portable field member)
  have composites : (Json.array (document.composites.map CompositeField.toJson)).list?
      CompositeField.ofJson? = some document.composites :=
    Json.list?_map fun composite _ => composite.ofJson?_toJson
  unfold toJson ofJson?
  rw [Json.record?_structured (by simp) (by simp)]
  simp [Record.required, Record.orDefault, Record.nullable, Record.find?, id, fields, composites]

/-- **A document is found again from its text**, if no field holds a double or an instant in a leap
second. -/
theorem ofJson?_parse?_render {document : Document} (portable : document.Portable) :
    (Json.parse? document.toJson.render).bind ofJson? = some document := by
  rw [Json.parse?_render (written_toJson portable), Option.bind_some, ofJson?_toJson portable]

/-- A document with a value of every kind but doubles: the last letter of its id is beyond the first
plane, a text has a quote, a backslash and controls, the integers are the extremes, one instant is
before the common era and one after the year 9999. -/
def everyKind : Document where
  id := some "é𝒳"
  fields := [⟨"nothing", .null, {}⟩, ⟨"", .bool true, ⟨false, true, false⟩⟩,
    ⟨"low", .int Int64.minValue, {}⟩, ⟨"high", .int Int64.maxValue, {}⟩,
    ⟨"quoted \"name\"", .keyword "\\ \x00\x1f\n", {}⟩, ⟨"body", .text "\t\x08 \x7f", {}⟩,
    ⟨"earliest", .instant ⟨⟨firstYear, 1, 1, by decide, by decide, by decide⟩, 0, 0, by decide,
      by decide, by decide⟩, {}⟩,
    ⟨"latest", .instant ⟨⟨lastYear, 12, 31, by decide, by decide, by decide⟩, 86399, 250000000,
      by decide, by decide, by decide⟩, {}⟩,
    ⟨"raw", .bytes [0, 10, 255], {}⟩]
  composites := [⟨"all", ["body"], []⟩, ⟨"rest", [], ["body", "raw"]⟩]

theorem ofJson?_parse?_render_everyKind : everyKind.Portable ∧
    (Json.parse? everyKind.toJson.render).bind ofJson? = some everyKind :=
  have portable : everyKind.Portable := by decide
  ⟨portable, ofJson?_parse?_render portable⟩

end Document

end TextIndex
