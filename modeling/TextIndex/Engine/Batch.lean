import TextIndex.Index.Snapshot

/-!
# Batches

A batch gathers edits that are committed together: documents to put or to remove, under their
external ids, and metadata to set or to remove, under their keys. A later edit under the same id or
key replaces an earlier one.

* `Batch.put`, `Batch.remove`, `Batch.setMetadata`, `Batch.removeMetadata`: gathering edits.
* `Batch.reset`: taking them out again.
* `Batch.validate`: what a batch must not hold.
-/

namespace TextIndex

/-- Changes of the documents: one is put or none is left, under each external id. -/
abbrev DocumentEdits := Std.ExtTreeMap String (Option Document)

namespace DocumentEdits

/-- Every document that is put has the id that it is put under. -/
def Keyed (edits : DocumentEdits) : Prop :=
  ∀ (id : String) (document : Document), edits[id]? = some (some document) → document.id = some id

theorem keyed_empty : Keyed ∅ := by
  intro id document held
  rw [Std.ExtTreeMap.getElem?_empty] at held
  cases held

theorem Keyed.insert {edits : DocumentEdits} (keyed : edits.Keyed) (id : String)
    (edit : Option Document) (own : ∀ document, edit = some document → document.id = some id) :
    Keyed (edits.insert id edit) := by
  intro key document held
  rw [Std.ExtTreeMap.getElem?_insert] at held
  split at held
  · next same =>
    rw [← Std.LawfulEqCmp.eq_of_compare same]
    exact own document (Option.some.inj held)
  · exact keyed key document held

end DocumentEdits

/-- Edits that are committed together. -/
structure Batch where
  /-- For each external id, the document to put, or none to remove it. -/
  documents : DocumentEdits
  metadata : MetadataEdits
  keyed : documents.Keyed

namespace Batch

/-- The batch without edits. -/
def empty : Batch := ⟨∅, ∅, DocumentEdits.keyed_empty⟩

instance : Inhabited Batch := ⟨empty⟩

/-- Put a document, under its own id or, if it has none, under a fresh one. The id is given back. -/
def put (batch : Batch) (document : Document) (fresh : String) : String × Batch :=
  let id := document.id.getD fresh
  (id, { batch with
    documents := batch.documents.insert id (some { document with id := some id })
    keyed := batch.keyed.insert id _ fun _ same => Option.some.inj same ▸ rfl })

def remove (batch : Batch) (id : String) : Batch :=
  { batch with
    documents := batch.documents.insert id none
    keyed := batch.keyed.insert id none fun _ same => nomatch same }

def setMetadata (batch : Batch) (key value : Bytes) : Batch :=
  { batch with metadata := batch.metadata.insert key (some value) }

def removeMetadata (batch : Batch) (key : Bytes) : Batch :=
  { batch with metadata := batch.metadata.insert key none }

/-- Take all edits out again. -/
def reset (_ : Batch) : Batch :=
  empty

def size (batch : Batch) : Nat :=
  batch.documents.size + batch.metadata.size

def isEmpty (batch : Batch) : Bool :=
  batch.size == 0

def puts (batch : Batch) : Nat :=
  batch.documents.values.countP Option.isSome

def removals (batch : Batch) : Nat :=
  batch.documents.values.countP Option.isNone

def metadataSets (batch : Batch) : Nat :=
  batch.metadata.values.countP Option.isSome

def metadataRemovals (batch : Batch) : Nat :=
  batch.metadata.values.countP Option.isNone

/-- The external ids of all documents that are put or removed, in ascending order. -/
def touched (batch : Batch) : List String :=
  batch.documents.keys

/-- The documents to put, each with its id, in ascending order of the ids. -/
def putDocuments (batch : Batch) : List (String × Document) :=
  batch.documents.toList.filterMap fun entry => entry.2.map fun document => (entry.1, document)

/-- What is wrong with the edit under an external id. -/
def editFault? (id : String) (edit : Option Document) : Option ArgumentFault :=
  if id = "" then some .emptyId
  else edit.bind fun document =>
    if document.usesReservedName then some (.reservedField id identityName)
    else document.collision?.map fun composite => .collidingComposite id composite.name

/-- What is wrong with a batch: the first fault of a document, and then an empty metadata key. -/
def fault? (batch : Batch) : Option ArgumentFault :=
  match batch.documents.toList.findSome? fun entry => editFault? entry.1 entry.2 with
  | some fault => some fault
  | none => if batch.metadata.contains [] then some .emptyMetadataKey else none

/-- Check a batch before anything is done with it. -/
def validate (batch : Batch) : Except IndexError Unit :=
  match batch.fault? with
  | some fault => .error (.argument fault)
  | none => .ok ()

end Batch

end TextIndex
