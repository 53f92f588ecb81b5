import TextIndex.Json.Basic

/-!
# Structures and choices in JSON

A structure is written as an object with one member for each of its fields, and may also be read
from an array that lists the fields in order. Members that belong to no field are passed over; a
field given twice is refused. A choice is written as the name of its case, or as an object whose
only member is named for the case and holds what comes with it.

* `Json.record?`: the fields of a structure.
* `Record.required`, `Record.orDefault`, `Record.nullable`: reading one field.
* `Json.choice?`: the case of a choice.
* `Json.string`, `Json.structure`: writing.
-/

namespace TextIndex

namespace Json

def string? : Json → Option String
  | text units => (TextUnit.decode? units).map String.ofList
  | _ => none

def bool? : Json → Option Bool
  | bool value => some value
  | _ => none

def integer? (low high : Int) : Json → Option Int
  | number literal =>
    literal.toInt?.bind fun value => if low ≤ value ∧ value ≤ high then some value else none
  | _ => none

def word? (value : Json) : Option UInt64 :=
  (value.integer? 0 (UInt64.size - 1)).map fun value => UInt64.ofNat value.toNat

def binary64? : Json → Option Binary64
  | number literal => literal.toBinary64?
  | _ => none

/-- The elements of an array, each read in the same way. -/
def list? {α : Type} (read : Json → Option α) : Json → Option (List α)
  | array elements => elements.mapM read
  | _ => none

/-- Null or a value. -/
def nullable? {α : Type} (read : Json → Option α) : Json → Option (Option α)
  | null => some none
  | value => (read value).map some

def string (value : String) : Json :=
  text (TextUnit.ofString value)

def integer (value : Int) : Json :=
  number (Literal.ofInt value)

/-- A double as it is written: null if it is no finite number. -/
def binary64 (value : Binary64) : Json :=
  if value.isFinite then number (Literal.ofBinary64 value) else null

/-- Null or a value as it is written. -/
def nullable {α : Type} (write : α → Json) : Option α → Json
  | some value => write value
  | none => null

def structured (fields : List (String × Json)) : Json :=
  object (fields.map fun field => (TextUnit.ofString field.1, field.2))

/-- A case that comes with a value. -/
def tagged (name : String) (value : Json) : Json :=
  structured [(name, value)]

end Json

/-- The fields of a structure that a JSON text gives. -/
structure Record where
  values : List (String × Json)
  /-- Whether the fields were listed in order instead of by name. -/
  listed : Bool

namespace Record

/-- The fields named in a list of members. Every name has to be a text; one that belongs to no
field is passed over and one that comes twice is refused. -/
def ofMembers? (names : List String) :
    List (List Json.TextUnit × Json) → Option (List (String × Json))
  | [] => some []
  | (key, value) :: rest => do
    let name := String.ofList (← Json.TextUnit.decode? key)
    let others ← ofMembers? names rest
    if names.contains name then
      if others.any (·.1 == name) then none else some ((name, value) :: others)
    else some others

/-- The value given for a field. -/
def find? (record : Record) (name : String) : Option Json :=
  (record.values.find? (·.1 == name)).map (·.2)

/-- A field that has to be given. -/
def required {α : Type} (record : Record) (name : String) (read : Json → Option α) : Option α :=
  (record.find? name).bind read

/-- A field with a value of its own where it is not given. -/
def orDefault {α : Type} (record : Record) (name : String) (read : Json → Option α)
    (value : α) : Option α :=
  match record.find? name with
  | some given => read given
  | none => some value

/-- A field that may be null. By name it may be left out, in a list it may not. -/
def nullable {α : Type} (record : Record) (name : String) (read : Json → Option α) :
    Option (Option α) :=
  match record.find? name with
  | some given => Json.nullable? read given
  | none => if record.listed then none else some none

end Record

namespace Json

/-- The fields of a structure, given by name in an object or in order in an array. -/
def record? (names : List String) : Json → Option Record
  | object members => (Record.ofMembers? names members).map fun values => ⟨values, false⟩
  | array elements =>
    if elements.length ≤ names.length then some ⟨names.zip elements, true⟩ else none
  | _ => none

/-- The case of a choice and the value that comes with it, if one is written. -/
def choice? : Json → Option (String × Option Json)
  | text units => (TextUnit.decode? units).map fun name => (String.ofList name, none)
  | object [(key, value)] =>
    (TextUnit.decode? key).map fun name => (String.ofList name, some value)
  | _ => none

/-- Whether what comes with a case is what a case without a value may have: nothing or null. -/
def isBare : Option Json → Bool
  | none | some null => true
  | some _ => false

end Json

end TextIndex
