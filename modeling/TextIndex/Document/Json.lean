import TextIndex.Document.Basic
import TextIndex.Json.Record
import TextIndex.Json.Parser
import TextIndex.Json.Printer

/-!
# Documents in JSON

How values, fields and documents are written in JSON and read from it. A value is a choice named for
its kind; everything else is a structure.

* `Document.toJson`, `Document.ofJson?`: documents.
* `Field.toJson`, `Field.ofJson?`: fields.
* `Value.toJson`, `Value.ofJson?`: values.
-/

namespace TextIndex

open TextIndex.Time

namespace Value

def toJson : Value → Json
  | null => .string "Null"
  | bool value => .tagged "Bool" (.bool value)
  | int value => .tagged "Int64" (.integer value.toInt)
  | float value => .tagged "Float64" (.binary64 value)
  | keyword words => .tagged "String" (.string words)
  | text words => .tagged "Text" (.string words)
  | instant moment => .tagged "DateTime" (.string (String.ofList (moment.stamp .letter)))
  | bytes content => .tagged "Bytes" (.array (content.map fun byte => .integer byte.toNat))

/-- The value of a kind with the given name, from what comes with it. -/
def ofCase? (kind : String) (content : Json) : Option Value :=
  match kind with
  | "Bool" => content.bool?.map bool
  | "Int64" => (content.integer? Int64.minValue.toInt Int64.maxValue.toInt).map fun value =>
      int (Int64.ofInt value)
  | "Float64" => content.binary64?.map float
  | "String" => content.string?.map keyword
  | "Text" => content.string?.map text
  | "DateTime" =>
    (content.string?.bind fun stamp => Instant.ofStamp? stamp.toList).map instant
  | "Bytes" =>
    (content.list? (Json.integer? 0 255)).map fun values =>
      bytes (values.map fun value => UInt8.ofNat value.toNat)
  | _ => none

/-- The value that a JSON text stands for. -/
def ofJson? (json : Json) : Option Value :=
  match json.choice? with
  | some ("Null", content) => if Json.isBare content then some null else none
  | some (kind, some content) => ofCase? kind content
  | _ => none

end Value

namespace FieldOptions

def toJson (options : FieldOptions) : Json :=
  .structured [("indexed", .bool options.indexed), ("stored", .bool options.stored),
    ("include_in_composites", .bool options.composable)]

/-- The options that a JSON text stands for. -/
def ofJson? (json : Json) : Option FieldOptions := do
  let record ← json.record? ["indexed", "stored", "include_in_composites"]
  let indexed ← record.required "indexed" Json.bool?
  let stored ← record.required "stored" Json.bool?
  let composable ← record.required "include_in_composites" Json.bool?
  some ⟨indexed, stored, composable⟩

end FieldOptions

namespace Field

def toJson (field : Field) : Json :=
  .structured [("name", .string field.name), ("value", field.value.toJson),
    ("option", field.options.toJson)]

/-- The field that a JSON text stands for. -/
def ofJson? (json : Json) : Option Field := do
  let record ← json.record? ["name", "value", "option"]
  let name ← record.required "name" Json.string?
  let value ← record.required "value" Value.ofJson?
  let options ← record.required "option" FieldOptions.ofJson?
  some ⟨name, value, options⟩

end Field

namespace CompositeField

def toJson (composite : CompositeField) : Json :=
  .structured [("name", .string composite.name),
    ("include", .array (composite.included.map .string)),
    ("exclude", .array (composite.excluded.map .string))]

/-- The composite field that a JSON text stands for. -/
def ofJson? (json : Json) : Option CompositeField := do
  let record ← json.record? ["name", "include", "exclude"]
  let name ← record.required "name" Json.string?
  let included ← record.orDefault "include" (Json.list? Json.string?) []
  let excluded ← record.orDefault "exclude" (Json.list? Json.string?) []
  some ⟨name, included, excluded⟩

end CompositeField

namespace Document

def toJson (document : Document) : Json :=
  .structured [("id", .nullable .string document.id),
    ("fields", .array (document.fields.map Field.toJson)),
    ("composite_fields", .array (document.composites.map CompositeField.toJson))]

/-- The document that a JSON text stands for. -/
def ofJson? (json : Json) : Option Document := do
  let record ← json.record? ["id", "fields", "composite_fields"]
  let id ← record.nullable "id" Json.string?
  let fields ← record.required "fields" (Json.list? Field.ofJson?)
  let composites ←
    record.orDefault "composite_fields" (Json.list? CompositeField.ofJson?) []
  some ⟨id, fields, composites⟩

end Document

end TextIndex
