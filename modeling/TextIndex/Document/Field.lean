import TextIndex.Document.Value

/-!
# Fields

A field is a named value, with options that tell whether it is indexed, stored, and taken up into
composite fields. One name is reserved: the identity field holds a document's external id.

A composite field is derived: its terms are those of the plain fields that it takes up.

* `Field.identity`: the field that holds an external id.
* `CompositeField.includes`: whether a composite field takes up a field of the given name.
-/

namespace TextIndex

/-- The reserved name of the field that holds a document's external id. -/
def identityName : String := "_id"

/-- How a field is indexed and stored. -/
structure FieldOptions where
  /-- Whether the value is analyzed into terms. -/
  indexed : Bool := true
  /-- Whether the value is kept to be read again. -/
  stored : Bool := true
  /-- Whether composite fields may take the field up. -/
  composable : Bool := true
deriving DecidableEq, Repr, Inhabited

/-- A named value with its options. -/
structure Field where
  name : String
  value : Value
  options : FieldOptions := {}
deriving DecidableEq

namespace Field

/-- The field that holds an external id. -/
def identity (id : String) : Field where
  name := identityName
  value := .keyword id
  options := ⟨true, true, false⟩

/-- Equality, with numbers compared as numbers. -/
def same (first second : Field) : Bool :=
  first.name == second.name && first.value.same second.value && first.options == second.options

end Field

/-- A derived field whose terms are those of other fields. -/
structure CompositeField where
  name : String
  /-- The fields that are taken up; with none named, every field is. -/
  included : List String := []
  /-- The fields that are left out, even if they are named to be taken up. -/
  excluded : List String := []
deriving DecidableEq, Repr

/-- Whether a composite field takes up a field of the given name. The identity field never is. -/
def CompositeField.includes (composite : CompositeField) (name : String) : Bool :=
  name != identityName && !composite.excluded.contains name &&
    (composite.included.isEmpty || composite.included.contains name)

end TextIndex
