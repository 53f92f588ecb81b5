import Mathlib.Data.List.Dedup
import Mathlib.Data.List.DropRight
import TextIndex.Proofs.Engine.Edits

/-!
# What a batch holds

A batch is a log of which only the last edit of each external id and of each metadata key is left.
All that can be asked of it, its sizes and whether it is valid included, is told by these last
edits, as if the others had never been made.

* `Edit.Target`, `Edit.last?`, `Edit.lasting`: what edits touch, and the last ones to touch it.
* `Document.WellNamed`: names of fields that do not get in each other's way.
* `Batch.validate_eq_ok_iff`: what is asked of a batch, whichever edits it gathers.
* `BatchCall`, `Batch.ofCalls`: edits and resets in any order, and the batch after them.
* `Batch.Gathers`, `Batch.gathers_ofCalls`: all that a batch tells of the edits since it was reset.
-/

namespace TextIndex

/-! ### The last edits -/

namespace Edit

/-- What an edit touches: an external id, or a key of the metadata. -/
abbrev Target := String ⊕ Bytes

def target : Edit → Target
  | put document fresh => .inl (document.id.getD fresh)
  | remove id => .inl id
  | setMetadata key _ => .inr key
  | removeMetadata key => .inr key

/-- The document that an edit leaves under an external id, with that id. -/
def document? : Edit → Option Document
  | put document fresh => some { document with id := some (document.id.getD fresh) }
  | _ => none

/-- The value that an edit leaves under a key of the metadata. -/
def value? : Edit → Option Bytes
  | setMetadata _ value => some value
  | _ => none

/-- What an edit does. -/
inductive Kind
  | put
  | remove
  | setMetadata
  | removeMetadata
deriving DecidableEq

def kind : Edit → Kind
  | put _ _ => .put
  | remove _ => .remove
  | setMetadata _ _ => .setMetadata
  | removeMetadata _ => .removeMetadata

/-- The last edit of a target. -/
def last? (edits : List Edit) (target : Target) : Option Edit :=
  (edits.filter fun edit => edit.target = target).getLast?

/-- What edits touch, once each. -/
def touched (edits : List Edit) : List Target :=
  (edits.map Edit.target).dedup

/-- The edits that are the last of their targets. -/
def lasting (edits : List Edit) : List Edit :=
  (touched edits).filterMap (last? edits)

variable {edits : List Edit} {edit : Edit} {target : Target}

theorem last?_concat (edits : List Edit) (edit : Edit) (target : Target) :
    last? (edits ++ [edit]) target =
      if edit.target = target then some edit else last? edits target := by
  unfold last?
  rw [List.filter_append]
  by_cases same : edit.target = target
  · simp [same]
  · simp [same]

theorem of_last? (last : last? edits target = some edit) : edit ∈ edits ∧ edit.target = target := by
  have member := List.mem_filter.mp (List.mem_of_getLast? last)
  exact ⟨member.1, of_decide_eq_true member.2⟩

theorem last?_eq_none : last? edits target = none ↔ target ∉ touched edits := by
  unfold last? touched
  rw [List.getLast?_eq_none_iff, List.filter_eq_nil_iff, List.mem_dedup, List.mem_map]
  simp

/-- An edit lasts if it is the last of its target. -/
theorem mem_lasting : edit ∈ lasting edits ↔ last? edits edit.target = some edit := by
  unfold lasting
  rw [List.mem_filterMap]
  constructor
  · rintro ⟨target, -, last⟩
    rw [(of_last? last).2]
    exact last
  · intro last
    refine ⟨edit.target, not_not.mp fun untouched => ?_, last⟩
    rw [last?_eq_none.mpr untouched] at last
    cases last

/-- Each target has one edit that lasts. -/
theorem map_target_lasting (edits : List Edit) :
    (lasting edits).map Edit.target = touched edits := by
  have hasLast (target : Target) (isTouched : target ∈ touched edits) :
      (last? edits target).map Edit.target = some target := by
    obtain ⟨edit, last⟩ := Option.ne_none_iff_exists'.mp fun absent =>
      last?_eq_none.mp absent isTouched
    rw [last, Option.map_some, (of_last? last).2]
  unfold lasting
  rw [List.map_filterMap, List.filterMap_congr hasLast, List.filterMap_some]

/-- The edits that last are all that matters for the last ones. -/
theorem last?_lasting (edits : List Edit) (target : Target) :
    last? (lasting edits) target = last? edits target := by
  have sameTouched : target ∈ touched (lasting edits) ↔ target ∈ touched edits := by
    rw [touched, map_target_lasting, List.mem_dedup]
  cases last : last? (lasting edits) target with
  | none => rw [eq_comm, last?_eq_none, ← sameTouched, ← last?_eq_none, last]
  | some edit =>
    obtain ⟨member, rfl⟩ := of_last? last
    rw [mem_lasting.mp member]

/-- What is held under each key by the last edit of it is held by the edits that last. -/
theorem toList_perm_lasting {κ ν : Type} [Ord κ] [Std.TransOrd κ] [Std.LawfulEqOrd κ]
    {key? : Target → Option κ} {touching : κ → Target}
    (chosen : ∀ {target key}, key? target = some key ↔ target = touching key) {left : Edit → ν}
    {map : Std.ExtTreeMap κ ν} (held : ∀ key, map[key]? = (last? edits (touching key)).map left) :
    map.toList.Perm ((lasting edits).filterMap fun edit =>
      (key? edit.target).map fun key => (key, left edit)) := by
  have distinct : (((lasting edits).filterMap fun edit =>
      (key? edit.target).map fun key => (key, left edit)).map Prod.fst).Nodup := by
    have keys : ((lasting edits).filterMap fun edit =>
        (key? edit.target).map fun key => (key, left edit)).map Prod.fst =
          (touched edits).filterMap key? := by
      rw [← map_target_lasting, List.map_filterMap, List.filterMap_map]
      refine List.filterMap_congr fun edit _ => ?_
      rw [Option.map_map]
      exact Option.map_id'
    rw [keys]
    refine (List.nodup_dedup _).filterMap fun one other key isOne isOther => ?_
    rw [chosen.mp isOne, chosen.mp isOther]
  refine (List.perm_ext_iff_of_nodup ((nodup_map_fst_toList map).of_map _)
    (distinct.of_map _)).mpr fun ⟨key, value⟩ => ?_
  rw [Std.ExtTreeMap.mem_toList_iff_getElem?_eq_some, held, Option.map_eq_some_iff,
    List.mem_filterMap]
  constructor
  · rintro ⟨edit, last, rfl⟩
    have touches := (of_last? last).2
    rw [← touches] at last
    exact ⟨edit, mem_lasting.mpr last, by rw [chosen.mpr touches, Option.map_some]⟩
  · rintro ⟨edit, lasts, made⟩
    obtain ⟨own, touches, same⟩ := Option.map_eq_some_iff.mp made
    obtain ⟨rfl, rfl⟩ := Prod.mk.inj same
    exact ⟨edit, chosen.mp touches ▸ mem_lasting.mp lasts, rfl⟩

theorem touched_eq_nil : touched edits = [] ↔ edits = [] := by
  rw [touched, List.dedup_eq_nil, List.map_eq_nil_iff]

/-- A map with one entry. -/
theorem getElem?_insert_empty {κ ν : Type} [Ord κ] [Std.TransOrd κ] [Std.LawfulEqOrd κ]
    [DecidableEq κ] (own key : κ) (value : ν) :
    ((∅ : Std.ExtTreeMap κ ν).insert own value)[key]? = if own = key then some value else none := by
  rw [Std.ExtTreeMap.getElem?_insert, Std.ExtTreeMap.getElem?_empty]
  simp

/-- What an edit leaves in a batch of its own. -/
theorem documents_batch (edit : Edit) (id : String) : edit.batch.documents[id]? =
    if edit.target = .inl id then some edit.document? else none := by
  cases edit with
  | put document fresh =>
    refine (getElem?_insert_empty _ id _).trans ?_
    simp [target, document?]
  | remove own =>
    refine (getElem?_insert_empty own id none).trans ?_
    simp [target, document?]
  | setMetadata key value => exact Std.ExtTreeMap.getElem?_empty
  | removeMetadata key => exact Std.ExtTreeMap.getElem?_empty

theorem metadata_batch (edit : Edit) (key : Bytes) : edit.batch.metadata[key]? =
    if edit.target = .inr key then some edit.value? else none := by
  cases edit with
  | put document fresh => exact Std.ExtTreeMap.getElem?_empty
  | remove id => exact Std.ExtTreeMap.getElem?_empty
  | setMetadata own value =>
    refine (getElem?_insert_empty own key (some value)).trans ?_
    simp [target, value?]
  | removeMetadata own =>
    refine (getElem?_insert_empty own key none).trans ?_
    simp [target, value?]

end Edit

/-! ### Names that do not get in each other's way -/

namespace Document

variable {document : Document}

/-- No field has the reserved name, and the name of a composite field is that of no other field. -/
structure WellNamed (document : Document) : Prop where
  fields : ∀ field ∈ document.fields, field.name ≠ identityName
  composites : ∀ composite ∈ document.composites, composite.name ≠ identityName
  distinct : (document.composites.map (·.name)).Nodup
  apart : ∀ composite ∈ document.composites, ∀ field ∈ document.fields,
    field.name ≠ composite.name

theorem hasField_eq_false {name : String} :
    document.hasField name = false ↔ ∀ field ∈ document.fields, field.name ≠ name := by
  unfold hasField
  rw [List.any_eq_false]
  simp

theorem usesReservedName_eq_false : document.usesReservedName = false ↔
    (∀ field ∈ document.fields, field.name ≠ identityName) ∧
      ∀ composite ∈ document.composites, composite.name ≠ identityName := by
  unfold usesReservedName
  rw [Bool.or_eq_false_iff, hasField_eq_false, List.any_eq_false]
  simp

theorem collisionAfter?_eq_none {earlier later : List CompositeField} :
    document.collisionAfter? earlier later = none ↔
      (∀ composite ∈ later, document.hasField composite.name = false) ∧
        (later.map (·.name)).Nodup ∧
        ∀ composite ∈ later, ∀ other ∈ earlier, other.name ≠ composite.name := by
  induction later generalizing earlier with
  | nil => simp [collisionAfter?]
  | cons composite later ih =>
    unfold collisionAfter?
    by_cases collides :
        document.hasField composite.name || earlier.any (·.name == composite.name)
    · rw [if_pos collides]
      refine iff_of_false (Option.some_ne_none _) fun ⟨unfielded, _, apart⟩ => ?_
      rw [unfielded _ List.mem_cons_self, Bool.false_or, List.any_eq_true] at collides
      obtain ⟨other, member, same⟩ := collides
      exact apart _ List.mem_cons_self other member (beq_iff_eq.mp same)
    · rw [if_neg collides, ih]
      have clear : document.hasField composite.name = false ∧
          ∀ other ∈ earlier, other.name ≠ composite.name := by simpa using collides
      have first : composite.name ∉ later.map (·.name) ↔
          ∀ one ∈ later, composite.name ≠ one.name := by simp [eq_comm]
      simp only [List.forall_mem_cons, List.map_cons, List.nodup_cons, first, List.mem_append,
        List.mem_singleton, or_imp, forall_and, forall_eq]
      tauto

/-- The names of a document are checked exactly. -/
theorem wellNamed_iff : document.WellNamed ↔
    document.usesReservedName = false ∧ document.collision? = none := by
  unfold collision?
  rw [usesReservedName_eq_false, collisionAfter?_eq_none]
  constructor
  · rintro ⟨fields, composites, distinct, apart⟩
    refine ⟨⟨fields, composites⟩, fun composite member => ?_, distinct, fun _ _ _ noEdit => ?_⟩
    · exact hasField_eq_false.mpr (apart composite member)
    · cases noEdit
  · rintro ⟨⟨fields, composites⟩, unfielded, distinct, -⟩
    exact ⟨fields, composites, distinct, fun composite member =>
      hasField_eq_false.mp (unfielded composite member)⟩

end Document

/-! ### What is held -/

/-- What can be done to a batch before it is committed. -/
inductive BatchCall
  | gather (edit : Edit)
  | reset

namespace BatchCall

def applyTo (batch : Batch) : BatchCall → Batch
  | gather edit => edit.addTo batch
  | reset => batch.reset

def edit? : BatchCall → Option Edit
  | gather edit => some edit
  | reset => none

/-- The edits after the last reset. -/
def editsSinceReset (calls : List BatchCall) : List Edit :=
  (calls.rtakeWhile fun call => call.edit?.isSome).filterMap edit?

theorem editsSinceReset_gather (calls : List BatchCall) (edit : Edit) :
    editsSinceReset (calls ++ [gather edit]) = editsSinceReset calls ++ [edit] := by
  unfold editsSinceReset
  rw [List.rtakeWhile_concat, if_pos (show (gather edit).edit?.isSome from rfl),
    List.filterMap_append]
  rfl

theorem editsSinceReset_reset (calls : List BatchCall) :
    editsSinceReset (calls ++ [reset]) = [] := by
  unfold editsSinceReset
  rw [List.rtakeWhile_concat, if_neg (show ¬reset.edit?.isSome from Bool.false_ne_true)]
  rfl

end BatchCall

namespace Batch

variable {batch : Batch} {edits : List Edit}

theorem editFault?_eq_none {id : String} {edit : Option Document} :
    editFault? id edit = none ↔
      id ≠ "" ∧ ∀ document, edit = some document → document.WellNamed := by
  unfold editFault?
  by_cases empty : id = ""
  · simp [empty]
  · rw [if_neg empty]
    cases edit with
    | none => simp [empty]
    | some document =>
      by_cases reserved : document.usesReservedName
      · simp [reserved, Document.wellNamed_iff]
      · simp [reserved, Document.wellNamed_iff, empty]

/-- A batch is valid if it holds nothing under an empty id or key, and documents with names that
do not get in each other's way. -/
theorem validate_eq_ok_iff : batch.validate = .ok () ↔
    batch.documents[""]? = none ∧ batch.metadata[([] : Bytes)]? = none ∧
      ∀ (id : String) (document : Document), batch.documents[id]? = some (some document) →
        document.WellNamed := by
  rw [validate_eq_ok, contains_eq_false_iff]
  simp only [editFault?_eq_none]
  constructor
  · rintro ⟨fine, unkeyed⟩
    refine ⟨Option.eq_none_iff_forall_ne_some.mpr fun edit held => ?_, unkeyed,
      fun id document held => ?_⟩
    · exact (fine ("", edit) (Std.ExtTreeMap.mem_toList_iff_getElem?_eq_some.mpr held)).1 rfl
    · exact (fine (id, _) (Std.ExtTreeMap.mem_toList_iff_getElem?_eq_some.mpr held)).2 document rfl
  · rintro ⟨unnamed, unkeyed, named⟩
    refine ⟨fun ⟨id, edit⟩ member => ⟨?_, ?_⟩, unkeyed⟩
    · rintro rfl
      rw [Std.ExtTreeMap.mem_toList_iff_getElem?_eq_some.mp member] at unnamed
      cases unnamed
    · rintro document rfl
      exact named id document (Std.ExtTreeMap.mem_toList_iff_getElem?_eq_some.mp member)

/-- A batch holds changes of four kinds. -/
theorem size_eq (batch : Batch) : batch.size =
    batch.puts + batch.removals + batch.metadataSets + batch.metadataRemovals := by
  have partition {ν : Type} (changes : List (Option ν)) :
      changes.length = changes.countP Option.isSome + changes.countP Option.isNone := by
    rw [List.length_eq_countP_add_countP Option.isSome]
    congr 2
    funext change
    cases change <;> rfl
  have documents := partition batch.documents.values
  have metadata := partition batch.metadata.values
  rw [values_eq_map_snd, List.length_map, Std.ExtTreeMap.length_toList] at documents metadata
  rw [size, documents, metadata, puts, removals, metadataSets, metadataRemovals,
    values_eq_map_snd, values_eq_map_snd]
  omega

/-! ### Gathering -/

/-- A batch after some calls. -/
def ofCalls (calls : List BatchCall) : Batch :=
  calls.foldl BatchCall.applyTo .empty

/-- Nothing is left of what was done before a reset. -/
theorem ofCalls_eq (calls : List BatchCall) :
    ofCalls calls = ofEdits (BatchCall.editsSinceReset calls) := by
  induction calls using List.reverseRecOn with
  | nil => rfl
  | append_singleton calls call ih =>
    have applied : ofCalls (calls ++ [call]) = call.applyTo (ofCalls calls) := by
      unfold ofCalls
      rw [List.foldl_append]
      rfl
    cases call with
    | gather edit =>
      rw [applied, BatchCall.editsSinceReset_gather, ofEdits_concat, ih]
      rfl
    | reset =>
      rw [applied, BatchCall.editsSinceReset_reset]
      rfl

/-- Under an external id is what the last edit of it has left. -/
theorem documents_ofEdits (edits : List Edit) (id : String) :
    (ofEdits edits).documents[id]? = (Edit.last? edits (.inl id)).map Edit.document? := by
  induction edits using List.reverseRecOn with
  | nil => exact Std.ExtTreeMap.getElem?_empty
  | append_singleton edits edit ih =>
    rw [ofEdits_concat, edit.documents_addTo, edit.documents_batch, Edit.last?_concat, ih]
    by_cases same : edit.target = .inl id
    · rw [if_pos same, if_pos same]
      rfl
    · rw [if_neg same, if_neg same, Option.none_or]

theorem metadata_ofEdits (edits : List Edit) (key : Bytes) :
    (ofEdits edits).metadata[key]? = (Edit.last? edits (.inr key)).map Edit.value? := by
  induction edits using List.reverseRecOn with
  | nil => exact Std.ExtTreeMap.getElem?_empty
  | append_singleton edits edit ih =>
    rw [ofEdits_concat, edit.metadata_addTo, edit.metadata_batch, Edit.last?_concat, ih]
    by_cases same : edit.target = .inr key
    · rw [if_pos same, if_pos same]
      rfl
    · rw [if_neg same, if_neg same, Option.none_or]

/-- Edits that are overwritten may as well not be made. -/
theorem ofEdits_lasting (edits : List Edit) : ofEdits (Edit.lasting edits) = ofEdits edits := by
  refine ext_getElem? (fun id => ?_) (fun key => ?_)
  · rw [documents_ofEdits, documents_ofEdits, Edit.last?_lasting]
  · rw [metadata_ofEdits, metadata_ofEdits, Edit.last?_lasting]

/-- Of what is held of each kind there is as much as there are edits of the kind that last. -/
theorem count_kinds_ofEdits (edits : List Edit) :
    (ofEdits edits).puts = (Edit.lasting edits).countP (·.kind = .put) ∧
      (ofEdits edits).removals = (Edit.lasting edits).countP (·.kind = .remove) ∧
      (ofEdits edits).metadataSets = (Edit.lasting edits).countP (·.kind = .setMetadata) ∧
      (ofEdits edits).metadataRemovals =
        (Edit.lasting edits).countP (·.kind = .removeMetadata) := by
  have documents := Edit.toList_perm_lasting Sum.getLeft?_eq_some_iff (documents_ofEdits edits)
  have metadata := Edit.toList_perm_lasting Sum.getRight?_eq_some_iff (metadata_ofEdits edits)
  simp only [puts, removals, metadataSets, metadataRemovals, values_eq_map_snd, List.countP_map,
    documents.countP_eq, metadata.countP_eq, List.countP_filterMap]
  refine ⟨?_, ?_, ?_, ?_⟩
  all_goals
    refine List.countP_congr fun edit _ => ?_
    cases edit <;> simp [Edit.target, Edit.kind, Edit.document?, Edit.value?]

/-- The documents that are put are those of the edits that last. -/
theorem putDocuments_ofEdits_perm (edits : List Edit) : (ofEdits edits).putDocuments.Perm
    ((Edit.lasting edits).filterMap fun edit =>
      edit.document?.map fun document => (document.id.getD "", document)) := by
  have documents := Edit.toList_perm_lasting Sum.getLeft?_eq_some_iff (documents_ofEdits edits)
  have puts := documents.filterMap fun entry => entry.2.map fun document => (entry.1, document)
  rw [List.filterMap_filterMap] at puts
  refine puts.trans (List.Perm.of_eq (List.filterMap_congr fun edit _ => ?_))
  cases edit <;> rfl

/-- As much is held as there are ids and keys that were touched. -/
theorem size_ofEdits (edits : List Edit) : (ofEdits edits).size = (Edit.touched edits).length := by
  have documents := Edit.toList_perm_lasting Sum.getLeft?_eq_some_iff (documents_ofEdits edits)
  have metadata := Edit.toList_perm_lasting Sum.getRight?_eq_some_iff (metadata_ofEdits edits)
  rw [size, ← Std.ExtTreeMap.length_toList, ← Std.ExtTreeMap.length_toList, documents.length_eq,
    metadata.length_eq, List.length_filterMap_eq_countP, List.length_filterMap_eq_countP,
    ← Edit.map_target_lasting, List.length_map,
    List.length_eq_countP_add_countP fun edit : Edit => edit.target.isLeft]
  congr 1
  · refine List.countP_congr fun edit _ => ?_
    cases edit.target <;> simp
  · refine List.countP_congr fun edit _ => ?_
    cases edit.target <;> simp

/-- What a batch tells of the edits that it has gathered. -/
structure Gathers (batch : Batch) (edits : List Edit) : Prop where
  documents : ∀ id : String,
    batch.documents[id]? = (Edit.last? edits (.inl id)).map Edit.document?
  metadata : ∀ key : Bytes,
    batch.metadata[key]? = (Edit.last? edits (.inr key)).map Edit.value?
  keyed : ∀ (id : String) (document : Document), batch.documents[id]? = some (some document) →
    document.id = some id
  size : batch.size = (Edit.touched edits).length
  isEmpty : batch.isEmpty ↔ batch.size = 0
  untouched : batch.size = 0 ↔ edits = []
  kinds : batch.size =
    batch.puts + batch.removals + batch.metadataSets + batch.metadataRemovals
  puts : batch.puts = (Edit.lasting edits).countP (·.kind = .put)
  removals : batch.removals = (Edit.lasting edits).countP (·.kind = .remove)
  metadataSets : batch.metadataSets = (Edit.lasting edits).countP (·.kind = .setMetadata)
  metadataRemovals :
    batch.metadataRemovals = (Edit.lasting edits).countP (·.kind = .removeMetadata)
  valid : batch.validate = .ok () ↔
    batch.documents[""]? = none ∧ batch.metadata[([] : Bytes)]? = none ∧
      ∀ (id : String) (document : Document), batch.documents[id]? = some (some document) →
        document.WellNamed
  /-- Edits that were overwritten have left no trace. -/
  lasting : batch = ofEdits (Edit.lasting edits)

theorem gathers_ofEdits (edits : List Edit) : (ofEdits edits).Gathers edits where
  documents := documents_ofEdits edits
  metadata := metadata_ofEdits edits
  keyed := (ofEdits edits).keyed
  size := size_ofEdits edits
  isEmpty := beq_iff_eq
  untouched := by rw [size_ofEdits, List.length_eq_zero_iff, Edit.touched_eq_nil]
  kinds := size_eq _
  puts := (count_kinds_ofEdits edits).1
  removals := (count_kinds_ofEdits edits).2.1
  metadataSets := (count_kinds_ofEdits edits).2.2.1
  metadataRemovals := (count_kinds_ofEdits edits).2.2.2
  valid := validate_eq_ok_iff
  lasting := (ofEdits_lasting edits).symm

/-- **A batch tells the last edit of each id and key since it was reset, and nothing else.** -/
theorem gathers_ofCalls (calls : List BatchCall) :
    (ofCalls calls).Gathers (BatchCall.editsSinceReset calls) := by
  rw [ofCalls_eq]
  exact gathers_ofEdits _

/-- An edit that is not valid does no harm if it is taken out or overwritten. -/
example : (ofCalls [.gather (.put {} ""), .reset,
    .gather (.put { composites := [⟨"_id", [], []⟩] } "a"), .gather (.remove "a")]).validate =
      .ok () := by
  decide +kernel

end Batch

end TextIndex
