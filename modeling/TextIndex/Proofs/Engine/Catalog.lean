import TextIndex.Proofs.Engine.Commit
import TextIndex.Proofs.Snapshot.VisibleIds

/-!
# What an index holds

Seen from outside, an index is two maps: documents under their external ids, and metadata under
their keys. Each committed batch edits the two maps, and whatever is read from a snapshot is read
from the maps as the committed batches up to its version left them. Segments, hidden documents and
postings never show.

* `Catalog.commit`: what a committed batch does to the maps.
* `Snapshot.Represents`: that a snapshot shows what the maps hold.
* `Snapshot.Represents.commit`: a commit keeps it so.
-/

namespace TextIndex

/-! ### The two maps -/

/-- Documents under their external ids, and metadata under their keys. -/
structure Catalog where
  documents : Std.ExtTreeMap String Document := ∅
  metadata : Std.ExtTreeMap Bytes Bytes := ∅

namespace Catalog

/-- An index that was just opened holds nothing. -/
def empty : Catalog := {}

/-- The edit of one document. A document that cannot be analyzed changes nothing. -/
def editDocument (config : Config) (documents : Std.ExtTreeMap String Document)
    (edit : String × Option Document) : Std.ExtTreeMap String Document :=
  match edit with
  | (id, some document) =>
    if config.accepts id document then documents.insert id document else documents
  | (id, none) => documents.erase id

/-- The edit of one key of the metadata. -/
def editMetadata (metadata : Std.ExtTreeMap Bytes Bytes) (edit : Bytes × Option Bytes) :
    Std.ExtTreeMap Bytes Bytes :=
  match edit with
  | (key, some value) => metadata.insert key value
  | (key, none) => metadata.erase key

/-- The maps after the edits of a batch. -/
def commit (config : Config) (catalog : Catalog) (batch : Batch) : Catalog where
  documents := batch.documents.toList.foldl (editDocument config) catalog.documents
  metadata := batch.metadata.toList.foldl editMetadata catalog.metadata

/-- The maps after the edits of batches, one after the other. -/
def after (config : Config) (batches : List Batch) : Catalog :=
  batches.foldl (commit config) empty

/-- What the edit of a document makes of what was there. -/
def afterEdit (config : Config) (edit : String × Option Document) (before : Option Document) :
    Option Document :=
  match edit with
  | (id, some document) => if config.accepts id document then some document else before
  | (_, none) => none

theorem changesKey_editDocument (config : Config) :
    ChangesKey Prod.fst (afterEdit config) (editDocument config) := by
  rintro documents ⟨id, edit⟩ key
  unfold editDocument afterEdit
  cases edit with
  | none => exact Std.ExtTreeMap.getElem?_erase
  | some document =>
    show (if config.accepts id document then documents.insert id document else documents)[key]? =
      if compare id key = .eq then
        if config.accepts id document then some document else documents[id]?
      else documents[key]?
    by_cases accepts : config.accepts id document
    · rw [if_pos accepts, if_pos accepts]
      exact Std.ExtTreeMap.getElem?_insert
    · rw [if_neg accepts, if_neg accepts]
      by_cases same : compare id key = .eq
      · rw [if_pos same, Std.LawfulEqCmp.eq_of_compare same]
      · rw [if_neg same]

theorem changesKey_editMetadata :
    ChangesKey Prod.fst (fun edit _ => edit.2) editMetadata := by
  rintro metadata ⟨key, edit⟩ other
  unfold editMetadata
  cases edit with
  | none => exact Std.ExtTreeMap.getElem?_erase
  | some value => exact Std.ExtTreeMap.getElem?_insert

variable {config : Config} {catalog : Catalog} {batch : Batch}

theorem documents_commit (id : String) : (catalog.commit config batch).documents[id]? =
    batch.documents[id]?.elim catalog.documents[id]? fun edit =>
      afterEdit config (id, edit) catalog.documents[id]? :=
  (changesKey_editDocument config).foldl_toList _ _ _

/-- A batch leaves what it puts under the external ids that it touches. -/
theorem documents_commit_of_touches {id : String} (touches : batch.Touches config id) :
    (catalog.commit config batch).documents[id]? = batch.accepted? config id := by
  obtain ⟨edit, held, accepts⟩ := touches
  rw [documents_commit]
  unfold Batch.accepted?
  rw [held]
  cases edit with
  | none => rfl
  | some document => simp [afterEdit, Option.filter, accepts document rfl]

/-- A batch leaves the other documents as they are. -/
theorem documents_commit_of_untouched {id : String} (untouched : ¬batch.Touches config id) :
    (catalog.commit config batch).documents[id]? = catalog.documents[id]? := by
  rw [documents_commit]
  cases held : batch.documents[id]? with
  | none => rfl
  | some edit =>
    cases edit with
    | none => exact absurd ⟨none, held, fun _ same => by cases same⟩ untouched
    | some document =>
      have refused : ¬config.accepts id document := fun accepts =>
        untouched ⟨some document, held, fun _ same => Option.some.inj same ▸ accepts⟩
      simp [afterEdit, refused]

theorem apply_eq_foldl (edits : MetadataEdits) (metadata : Std.ExtTreeMap Bytes Bytes) :
    edits.apply metadata = edits.toList.foldl editMetadata metadata := by
  unfold MetadataEdits.apply
  rw [Std.ExtTreeMap.foldl_eq_foldl_toList]
  congr 1
  funext metadata edit
  obtain ⟨key, edit⟩ := edit
  cases edit <;> rfl

/-- Edits leave what they set under the keys that they edit, and the other keys as they are. -/
theorem getElem?_apply (edits : MetadataEdits) (metadata : Std.ExtTreeMap Bytes Bytes)
    (key : Bytes) :
    (edits.apply metadata)[key]? = edits[key]?.elim metadata[key]? fun edit => edit := by
  rw [apply_eq_foldl]
  exact changesKey_editMetadata.foldl_toList _ _ _

/-- The metadata is edited as a snapshot's is. -/
theorem metadata_commit :
    (catalog.commit config batch).metadata = batch.metadata.apply catalog.metadata :=
  (apply_eq_foldl _ _).symm

end Catalog

/-! ### Snapshots that show the maps -/

namespace Snapshot

/-- Whatever is read from a snapshot is what the maps hold. -/
structure Represents (snapshot : Snapshot) (catalog : Catalog) : Prop where
  visibleIds : snapshot.visibleIds = catalog.documents.keys
  ascending : snapshot.visibleIds.Pairwise fun first second => compare first second = .lt
  docCount : snapshot.docCount = UInt64.ofNat catalog.documents.size
  placed : ∀ id, (snapshot.locations id).length = if id ∈ catalog.documents then 1 else 0
  /-- The stored fields are those of the document, and after them the identity field. -/
  document : ∀ id, snapshot.document? id = catalog.documents[id]?.map fun document =>
    document.fields.filter (·.options.stored) ++ [Field.identity id]
  metadata : ∀ key, snapshot.metadata? key = catalog.metadata[key]?
  metadataSize : snapshot.metadata.size = catalog.metadata.size

/-- In a sound snapshot the places decide what the visible external ids and their number are. -/
theorem represents_of_placed {snapshot : Snapshot} (sound : snapshot.Sound) {catalog : Catalog}
    (placed : ∀ id, (snapshot.locations id).length = if id ∈ catalog.documents then 1 else 0)
    (document : ∀ id, snapshot.document? id = catalog.documents[id]?.map fun document =>
      document.fields.filter (·.options.stored) ++ [Field.identity id])
    (metadata : snapshot.metadata = catalog.metadata) : snapshot.Represents catalog := by
  have visibleIds : snapshot.visibleIds = catalog.documents.keys :=
    visibleIds_eq_keys sound catalog.documents placed
  refine ⟨visibleIds, ?_, ?_, placed, document, fun key => congrArg (·[key]?) metadata,
    congrArg (·.size) metadata⟩
  · rw [visibleIds]
    exact Std.ExtTreeMap.ordered_keys
  · rw [docCount_eq sound, visibleIds, Std.ExtTreeMap.length_keys]

theorem represents_empty : empty.Represents .empty := by
  refine represents_of_placed sound_empty (fun id => ?_) (fun id => ?_) rfl
  · rw [if_neg]
    · rfl
    · exact Std.ExtTreeMap.not_mem_empty
  · show none = Option.map _ (∅ : Std.ExtTreeMap String Document)[id]?
    rw [Std.ExtTreeMap.getElem?_empty]
    rfl

/-- **What a batch introduces makes a snapshot show what the batch makes of the maps.** -/
theorem Represents.commit {snapshot : Snapshot} {catalog : Catalog}
    (represents : snapshot.Represents catalog) (sound : snapshot.Sound) {id : Nat}
    (clear : snapshot.blocking? id = none) {engine : Engine} {batch : Batch}
    (valid : batch.validate = .ok ()) :
    (snapshot.splice id (engine.contribution batch)).Represents
      (catalog.commit engine.config batch) := by
  have proper : (engine.contribution batch).Proper := Engine.proper_contribution valid
  refine represents_of_placed (sound.splice clear proper) (fun key => ?_) (fun key => ?_) ?_
  · simp only [locations_splice sound proper, Std.ExtTreeMap.mem_iff_isSome_getElem?]
    by_cases touches : batch.Touches engine.config key
    · rw [if_pos (Engine.mem_touched_contribution.mpr touches), List.length_map,
        Engine.length_docNumbers_contribution valid, Catalog.documents_commit_of_touches touches]
    · rw [if_neg (Engine.mem_touched_contribution.not.mpr touches), represents.placed,
        Catalog.documents_commit_of_untouched touches]
      simp only [Std.ExtTreeMap.mem_iff_isSome_getElem?]
  · rw [document?_splice sound clear proper]
    by_cases touches : batch.Touches engine.config key
    · rw [if_pos (Engine.mem_touched_contribution.mpr touches),
        Engine.documentOf?_contribution valid, Catalog.documents_commit_of_touches touches]
      refine Option.map_congr fun document _ => ?_
      exact List.filter_append _ _
    · rw [if_neg (Engine.mem_touched_contribution.not.mpr touches), represents.document,
        Catalog.documents_commit_of_untouched touches]
  · have same : snapshot.metadata = catalog.metadata :=
      Std.ExtTreeMap.ext_getElem? fun key => represents.metadata key
    rw [Catalog.metadata_commit, ← same]
    rfl

end Snapshot

end TextIndex
