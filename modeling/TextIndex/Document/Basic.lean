import TextIndex.Document.Field
import TextIndex.Number.Total

/-!
# Documents

A document has an external id, unless it is still to be given one, plain fields in order, and
composite fields. Names of plain fields may repeat.

* `Document.get?`: the first field of a name.
* `Document.withIdentity`: a document with its identity field, as it is indexed.
-/

namespace TextIndex

/-- A document to be indexed. -/
structure Document where
  /-- The external id. -/
  id : Option String := none
  fields : List Field := []
  composites : List CompositeField := []
deriving DecidableEq, Inhabited

namespace Document

/-- The first field of the given name. -/
def get? (document : Document) (name : String) : Option Field :=
  document.fields.find? (·.name == name)

/-- Whether there is a field of the given name. -/
def hasField (document : Document) (name : String) : Bool :=
  document.fields.any (·.name == name)

/-- The bytes of all texts that the fields hold. -/
def plainTextBytes (document : Document) : Nat :=
  Number.total (document.fields.map (·.value.plainTextBytes))

/-- Equality, with numbers compared as numbers. -/
def same (first second : Document) : Bool :=
  first.id == second.id &&
    (first.fields.length == second.fields.length &&
      (first.fields.zip second.fields).all fun pair => pair.1.same pair.2) &&
    first.composites == second.composites

/-- The document with its identity field after the others, as it is indexed. -/
def withIdentity (document : Document) (id : String) : Document :=
  { document with fields := document.fields ++ [Field.identity id] }

/-- Whether a plain or composite field has the reserved name. -/
def usesReservedName (document : Document) : Bool :=
  document.hasField identityName || document.composites.any (·.name == identityName)

/-- The first composite field of those after `earlier` whose name is that of a plain field or of an
earlier composite field. -/
def collisionAfter? (document : Document) (earlier : List CompositeField) :
    List CompositeField → Option CompositeField
  | [] => none
  | composite :: later =>
    if document.hasField composite.name || earlier.any (·.name == composite.name) then
      some composite
    else collisionAfter? document (earlier ++ [composite]) later

/-- The first composite field whose name is that of a plain field or of an earlier composite
field. -/
def collision? (document : Document) : Option CompositeField :=
  document.collisionAfter? [] document.composites

end Document

end TextIndex
