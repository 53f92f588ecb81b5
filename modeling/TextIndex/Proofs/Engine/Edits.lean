import Mathlib.Data.List.Forall2
import Mathlib.Data.List.Induction
import TextIndex.Proofs.Engine.Skipping
import TextIndex.Proofs.Query.TermSearch

/-!
# Edits together and one by one

A batch overwrites edits under the same id or key before anything is analyzed; batches of their own
overwrite each other through the documents that they hide. Both come to the same: the maps after a
batch of several edits are the maps after a batch of each of them, and nothing shows but the maps.
It matters how edits are gathered only if the analysis is closed: a batch that puts a document is
then refused as a whole, with the other edits that it holds.

* `Edit`, `Batch.ofEdits`: the edits, and a batch that gathers several.
* `Batch.ofEdits_withoutPuts`: documents that are put and removed again may as well not be put.
* `Catalog.commit_ofEdits`: what the maps become.
* `Snapshot.LooksLike`: that two snapshots show the same.
* `Snapshot.MadeOf.looksLike`: snapshots that come to the same maps do.
* `Engine.Reached.commitAll_edits`, `Engine.Reached.commit_edits`: edits one by one and together.
* `Engine.not_commit_edits`: the closed pool has to be excepted.
-/

namespace TextIndex

/-- What a batch can gather. -/
inductive Edit
  | put (document : Document) (fresh : String)
  | remove (id : String)
  | setMetadata (key value : Bytes)
  | removeMetadata (key : Bytes)

namespace Edit

/-- A batch with one more edit. -/
def addTo (batch : Batch) : Edit → Batch
  | put document fresh => (batch.put document fresh).2
  | remove id => batch.remove id
  | setMetadata key value => batch.setMetadata key value
  | removeMetadata key => batch.removeMetadata key

/-- A batch of one edit. -/
def batch (edit : Edit) : Batch :=
  edit.addTo .empty

/-- Whether a document is put. -/
def puts : Edit → Bool
  | put _ _ => true
  | _ => false

section Overwriting

variable {κ ν : Type} [Ord κ] [Std.TransOrd κ] (map : Std.ExtTreeMap κ ν) (key : κ)

/-- Nothing is overwritten by nothing. -/
theorem getElem?_empty_or : map[key]? = (∅ : Std.ExtTreeMap κ ν)[key]?.or map[key]? := by
  rw [Std.ExtTreeMap.getElem?_empty, Option.none_or]

/-- One entry overwrites what is under its own key. -/
theorem getElem?_insert_or (own : κ) (value : ν) : (map.insert own value)[key]? =
    ((∅ : Std.ExtTreeMap κ ν).insert own value)[key]?.or map[key]? := by
  rw [Std.ExtTreeMap.getElem?_insert, Std.ExtTreeMap.getElem?_insert]
  split
  · rfl
  · exact getElem?_empty_or map key

end Overwriting

variable (edit : Edit) (batch : Batch)

/-- What an edit overwrites in a batch is what it is on its own. -/
theorem documents_addTo (id : String) : (edit.addTo batch).documents[id]? =
    edit.batch.documents[id]?.or batch.documents[id]? := by
  cases edit with
  | put document fresh => exact getElem?_insert_or _ _ _ _
  | remove key => exact getElem?_insert_or _ _ _ _
  | setMetadata key value => exact getElem?_empty_or _ _
  | removeMetadata key => exact getElem?_empty_or _ _

theorem metadata_addTo (key : Bytes) : (edit.addTo batch).metadata[key]? =
    edit.batch.metadata[key]?.or batch.metadata[key]? := by
  cases edit with
  | put document fresh => exact getElem?_empty_or _ _
  | remove id => exact getElem?_empty_or _ _
  | setMetadata own value => exact getElem?_insert_or _ _ _ _
  | removeMetadata own => exact getElem?_insert_or _ _ _ _

/-- A batch of one edit puts a document if the edit does. -/
theorem putsAny_batch : edit.batch.PutsAny ↔ edit.puts := by
  cases edit with
  | put document fresh => exact iff_of_true ⟨_, _, Std.ExtTreeMap.getElem?_insert_self⟩ rfl
  | remove id =>
    refine iff_of_false (fun ⟨key, document, held⟩ => ?_) Bool.false_ne_true
    rw [show (remove id).batch.documents = (∅ : DocumentEdits).insert id none from rfl,
      Std.ExtTreeMap.getElem?_insert, Std.ExtTreeMap.getElem?_empty] at held
    split at held <;> cases held
  | setMetadata key value =>
    refine iff_of_false (fun ⟨id, document, held⟩ => ?_) Bool.false_ne_true
    cases Std.ExtTreeMap.getElem?_empty.symm.trans held
  | removeMetadata key =>
    refine iff_of_false (fun ⟨id, document, held⟩ => ?_) Bool.false_ne_true
    cases Std.ExtTreeMap.getElem?_empty.symm.trans held

/-- A segment can hold the document of an edit, if it puts one. -/
theorem fits_batch (config : Config) : edit.batch.Fits config := by
  have few : edit.batch.documents.size ≤ 1 := by
    cases edit with
    | put document fresh => exact Std.ExtTreeMap.size_insert_le
    | remove id => exact Std.ExtTreeMap.size_insert_le
    | setMetadata key value => exact Nat.zero_le 1
    | removeMetadata key => exact Nat.zero_le 1
  have room : 1 < UInt32.size := by decide
  exact Nat.lt_of_le_of_lt (Batch.length_analyzed_le.trans few) room

/-- An edit that puts a document does nothing else. -/
theorem only_puts {edit : Edit} (puts : edit.puts) :
    (∀ (id : String) (change : Option Document), edit.batch.documents[id]? = some change →
      change ≠ none) ∧
      ∀ key : Bytes, edit.batch.metadata[key]? = none := by
  cases edit with
  | put document fresh =>
    refine ⟨fun id change held => ?_, fun key => Std.ExtTreeMap.getElem?_empty⟩
    rw [show (put document fresh).batch.documents = (∅ : DocumentEdits).insert _ _ from rfl,
      Std.ExtTreeMap.getElem?_insert, Std.ExtTreeMap.getElem?_empty] at held
    split at held
    · cases held
      exact Option.some_ne_none _
    · cases held
  | remove _ => cases puts
  | setMetadata _ _ => cases puts
  | removeMetadata _ => cases puts

end Edit

namespace Batch

/-- A batch that gathers edits in order. -/
def ofEdits (edits : List Edit) : Batch :=
  edits.foldl Edit.addTo .empty

theorem ofEdits_concat (edits : List Edit) (edit : Edit) :
    ofEdits (edits ++ [edit]) = edit.addTo (ofEdits edits) := by
  unfold ofEdits
  rw [List.foldl_append]
  rfl

theorem ext_getElem? {first second : Batch}
    (documents : ∀ id : String, first.documents[id]? = second.documents[id]?)
    (metadata : ∀ key : Bytes, first.metadata[key]? = second.metadata[key]?) : first = second := by
  obtain ⟨firstDocuments, firstMetadata, _⟩ := first
  obtain ⟨secondDocuments, secondMetadata, _⟩ := second
  obtain rfl := Std.ExtTreeMap.ext_getElem? documents
  obtain rfl := Std.ExtTreeMap.ext_getElem? metadata
  rfl

/-- The edits that put no document. -/
def withoutPuts (edits : List Edit) : List Edit :=
  edits.filter fun edit => !edit.puts

theorem withoutPuts_concat (edits : List Edit) (edit : Edit) : withoutPuts (edits ++ [edit]) =
    withoutPuts edits ++ if edit.puts then [] else [edit] := by
  unfold withoutPuts
  rw [List.filter_append]
  cases puts : edit.puts <;> simp [puts]

/-- Without the edits that put documents a batch holds the same, but for what they put. -/
theorem documents_withoutPuts (edits : List Edit) (id : String) :
    (∃ document, (ofEdits edits).documents[id]? = some (some document)) ∨
      (ofEdits (withoutPuts edits)).documents[id]? = (ofEdits edits).documents[id]? := by
  induction edits using List.reverseRecOn with
  | nil => exact .inr rfl
  | append_singleton edits edit ih =>
    rw [ofEdits_concat, edit.documents_addTo, withoutPuts_concat]
    by_cases puts : edit.puts
    · rw [if_pos puts, List.append_nil]
      cases own : edit.batch.documents[id]? with
      | none => simpa only [Option.none_or] using ih
      | some change =>
        obtain ⟨document, rfl⟩ :=
          Option.ne_none_iff_exists'.mp ((Edit.only_puts puts).1 id change own)
        exact .inl ⟨document, rfl⟩
    · rw [if_neg puts, ofEdits_concat, edit.documents_addTo]
      cases own : edit.batch.documents[id]? with
      | none => simpa only [Option.none_or] using ih
      | some change => exact .inr rfl

theorem metadata_withoutPuts (edits : List Edit) (key : Bytes) :
    (ofEdits (withoutPuts edits)).metadata[key]? = (ofEdits edits).metadata[key]? := by
  induction edits using List.reverseRecOn with
  | nil => rfl
  | append_singleton edits edit ih =>
    rw [ofEdits_concat, edit.metadata_addTo, withoutPuts_concat]
    by_cases puts : edit.puts
    · rw [if_pos puts, List.append_nil, (Edit.only_puts puts).2, Option.none_or, ih]
    · rw [if_neg puts, ofEdits_concat, edit.metadata_addTo, ih]

/-- If all documents that are put are removed again, it makes no difference that they were put. -/
theorem ofEdits_withoutPuts {edits : List Edit} (putsNone : ¬(ofEdits edits).PutsAny) :
    ofEdits (withoutPuts edits) = ofEdits edits := by
  refine ext_getElem? (fun id => ?_) (metadata_withoutPuts edits)
  exact (documents_withoutPuts edits id).resolve_left fun ⟨document, held⟩ =>
    putsNone ⟨id, document, held⟩

/-- A batch is valid and all documents that it puts can be analyzed. -/
structure Sane (batch : Batch) (config : Config) : Prop where
  valid : batch.validate = .ok ()
  succeeds : batch.failures config = []

variable {batch : Batch} {config : Config}

/-- In other words, nothing is wrong with any of its edits. -/
theorem sane_iff : batch.Sane config ↔
    (∀ (id : String) (edit : Option Document), batch.documents[id]? = some edit →
      editFault? id edit = none ∧ ∀ document, edit = some document → config.accepts id document) ∧
      batch.metadata[([] : Bytes)]? = none := by
  have allSucceed : batch.failures config = [] ↔ ∀ id, ¬batch.Fails config id := by
    rw [← not_exists, ← failures_ne_nil, not_not]
  constructor
  · rintro ⟨valid, succeeds⟩
    rw [validate_eq_ok, contains_eq_false_iff] at valid
    refine ⟨fun id edit held => ⟨?_, fun document put => ?_⟩, valid.2⟩
    · exact valid.1 (id, edit) (Std.ExtTreeMap.mem_toList_iff_getElem?_eq_some.mpr held)
    · by_contra refused
      refine allSucceed.mp succeeds id (fails_iff.mpr ⟨document, put ▸ held, ?_⟩)
      exact Bool.not_eq_true _ ▸ refused
  · rintro ⟨fine, unkeyed⟩
    refine ⟨validate_eq_ok.mpr ⟨fun entry member => ?_, contains_eq_false_iff.mpr unkeyed⟩, ?_⟩
    · exact (fine _ _ (Std.ExtTreeMap.mem_toList_iff_getElem?_eq_some.mp member)).1
    · refine allSucceed.mpr fun id fails => ?_
      obtain ⟨document, held, refused⟩ := fails_iff.mp fails
      rw [(fine id _ held).2 document rfl] at refused
      cases refused

/-- An edit that is sane on its own keeps a batch sane. -/
theorem Sane.addTo {edit : Edit} (sane : batch.Sane config) (alone : edit.batch.Sane config) :
    (edit.addTo batch).Sane config := by
  rw [sane_iff] at *
  refine ⟨fun id change held => ?_, ?_⟩
  · rw [edit.documents_addTo, Option.or_eq_some_iff] at held
    rcases held with own | ⟨-, earlier⟩
    · exact alone.1 id change own
    · exact sane.1 id change earlier
  · rw [edit.metadata_addTo, alone.2, sane.2]
    rfl

theorem sane_empty (config : Config) : empty.Sane config :=
  ⟨rfl, rfl⟩

theorem sane_ofEdits {edits : List Edit} (alone : ∀ edit ∈ edits, edit.batch.Sane config) :
    (ofEdits edits).Sane config := by
  unfold ofEdits
  have started := sane_empty config
  generalize empty = start at started
  induction edits generalizing start with
  | nil => exact started
  | cons edit rest ih =>
    rw [List.forall_mem_cons] at alone
    exact ih alone.2 _ (started.addTo alone.1)

end Batch

namespace Catalog

variable {config : Config} {edit : Edit}

/-- An edit that is added to a batch makes of the maps what it makes of them after the batch. -/
theorem commit_addTo (alone : edit.batch.Sane config) (catalog : Catalog) (batch : Batch) :
    catalog.commit config (edit.addTo batch) =
      (catalog.commit config batch).commit config edit.batch := by
  have documents : (catalog.commit config (edit.addTo batch)).documents =
      ((catalog.commit config batch).commit config edit.batch).documents := by
    refine Std.ExtTreeMap.ext_getElem? fun id => ?_
    rw [documents_commit, documents_commit, documents_commit, edit.documents_addTo]
    cases own : edit.batch.documents[id]? with
    | none => rfl
    | some change =>
      cases change with
      | none => rfl
      | some document =>
        have accepts := ((Batch.sane_iff.mp alone).1 id _ own).2 document rfl
        simp [afterEdit, accepts]
  have metadata : (catalog.commit config (edit.addTo batch)).metadata =
      ((catalog.commit config batch).commit config edit.batch).metadata := by
    refine Std.ExtTreeMap.ext_getElem? fun key => ?_
    simp only [metadata_commit, getElem?_apply, edit.metadata_addTo]
    cases edit.batch.metadata[key]? <;> rfl
  exact congrArg₂ Catalog.mk documents metadata

/-- **Edits in one batch make of the maps what they make of them one by one.** -/
theorem commit_ofEdits {edits : List Edit} (alone : ∀ edit ∈ edits, edit.batch.Sane config)
    (catalog : Catalog) : catalog.commit config (.ofEdits edits) =
      (edits.map Edit.batch).foldl (commit config) catalog := by
  induction edits using List.reverseRecOn with
  | nil => rfl
  | append_singleton edits edit ih =>
    rw [List.forall_mem_append, List.forall_mem_singleton] at alone
    rw [Batch.ofEdits_concat, commit_addTo alone.2, ih alone.1, List.map_append, List.foldl_append]
    rfl

/-- Edits may be gathered after whatever was committed. -/
theorem after_ofEdits {edits : List Edit} (alone : ∀ edit ∈ edits, edit.batch.Sane config)
    (batches : List Batch) : after config (batches ++ [.ofEdits edits]) =
      after config (batches ++ edits.map Edit.batch) := by
  unfold after
  rw [List.foldl_append, List.foldl_append]
  exact commit_ofEdits alone _

end Catalog

/-! ### Snapshots that show the same -/

namespace Snapshot

/-- What is told of an occurrence, but for the place of the document. -/
def unplaced (found : TermMatch) : String × UInt32 × UInt32 :=
  (found.id, found.frequency, found.fieldLength)

/-- Two snapshots show the same documents and metadata. Versions, segments and places may differ. -/
structure LooksLike (first second : Snapshot) : Prop where
  visibleIds : first.visibleIds = second.visibleIds
  docCount : first.docCount = second.docCount
  document : ∀ id, first.document? id = second.document? id
  metadata : ∀ key, first.metadata? key = second.metadata? key
  termMatches : ∀ field term, ((first.termMatches field term).map unplaced).Perm
    ((second.termMatches field term).map unplaced)

variable {first second : Snapshot} {config : Config} {catalog : Catalog} {rows others : List Row}
  {field term : String}

theorem Lists.nodup_unplaced (lists : first.Lists config catalog rows) (field term : String) :
    ((first.termMatches field term).map unplaced).Nodup := by
  have distinct := lists.nodup_ids_termMatches field term
  refine List.Nodup.of_map Prod.fst ?_
  rw [List.map_map]
  exact distinct

/-- Of each document of the maps the same is told, wherever it is placed. -/
theorem Lists.unplaced_subset (lists : first.Lists config catalog rows)
    (otherLists : second.Lists config catalog others) :
    (first.termMatches field term).map unplaced ⊆ (second.termMatches field term).map unplaced := by
  intro told member
  obtain ⟨found, isFound, rfl⟩ := List.mem_map.mp member
  obtain ⟨analyzed, current, holds, reports⟩ := lists.mem_termMatches.mp isFound
  obtain ⟨row, rowMember, rfl⟩ := otherLists.current_iff.mp current
  obtain ⟨other, matched⟩ := Option.isSome_iff_exists.mp (Row.isSome_termMatch?.mpr holds)
  have otherReports := Row.reports_of_termMatch? current.measured
    (otherLists.located row rowMember) matched
  refine List.mem_map.mpr ⟨other, otherLists.mem_termMatches.mpr
    ⟨row.analyzed, current, holds, otherReports⟩, ?_⟩
  unfold unplaced
  rw [reports.id, reports.frequency, reports.fieldLength, otherReports.id, otherReports.frequency,
    otherReports.fieldLength]

/-- **Snapshots that come to the same maps look alike**, whatever batches they are made of. -/
theorem MadeOf.looksLike {batches otherBatches : List Batch} (made : first.MadeOf config batches)
    (otherMade : second.MadeOf config otherBatches)
    (same : Catalog.after config batches = Catalog.after config otherBatches) :
    first.LooksLike second := by
  have represents := made.represents
  have otherRepresents := otherMade.represents
  obtain ⟨rows, lists⟩ := made.exists_rows
  obtain ⟨others, otherLists⟩ := otherMade.exists_rows
  rw [← same] at otherRepresents otherLists
  refine ⟨?_, ?_, fun id => ?_, fun key => ?_, fun field term => ?_⟩
  · rw [represents.visibleIds, otherRepresents.visibleIds]
  · rw [represents.docCount, otherRepresents.docCount]
  · rw [represents.document, otherRepresents.document]
  · rw [represents.metadata, otherRepresents.metadata]
  · exact (List.perm_ext_iff_of_nodup (lists.nodup_unplaced field term)
      (otherLists.nodup_unplaced field term)).mpr fun _ =>
        ⟨fun member => lists.unplaced_subset otherLists member,
          fun member => otherLists.unplaced_subset lists member⟩

end Snapshot

/-! ### Edits together and one by one -/

namespace Engine

variable {config : Config} {batches : List Batch} {engine : Engine} {batch : Batch}

/-- A commit uses up one number at most. -/
theorem Standing.commit_keeps (standing : engine.Standing config batches) (batch : Batch) :
    (engine.commit batch).2.closed = engine.closed ∧
      (engine.commit batch).2.pool = engine.pool ∧
      (engine.commit batch).2.publisher.issued ≤ engine.publisher.issued + 1 := by
  rcases standing.commit_cases batch false with refused | ⟨_, _, _, _, published⟩
  · obtain ⟨_, _, _, same, -, -, issued⟩ := refused
    rw [same]
    exact ⟨rfl, rfl, issued⟩
  · obtain ⟨_, _, _, same, -, issued⟩ := published
    rw [same]
    exact ⟨rfl, rfl, Nat.le_of_eq issued⟩

/-- The index is open, and its pool takes the documents of a batch, if there are any. -/
def Admits (engine : Engine) (batch : Batch) : Prop :=
  engine.closed = false ∧ engine.Serves batch

theorem not_rejects_of_sane (sane : batch.Sane engine.config) : ¬engine.Rejects batch :=
  fun rejects => (rejects_iff.mp rejects).1 sane.succeeds

/-- A batch with which nothing is wrong is committed if it is admitted, as long as a segment can
hold it and there is a number left for it. -/
theorem Standing.commit_of_admits (standing : engine.Standing config batches)
    (sane : batch.Sane config) (admits : engine.Admits batch) (fits : batch.Fits config)
    (hasNumber : engine.publisher.hasNumber = true) :
    ∃ receipt, (engine.commit batch).1 = .ok receipt ∧ receipt.failures = [] := by
  obtain rfl := standing.sameConfig
  have passes : engine.Passes batch :=
    ⟨admits.1, sane.valid, admits.2, not_rejects_of_sane sane, fits, hasNumber⟩
  obtain ⟨counters, done⟩ := @commit_of_passes _ _ false (standing.ready admits.1) passes rfl
  rw [done]
  exact ⟨_, rfl, sane.succeeds⟩

/-- Otherwise it is refused, and changes nothing. -/
theorem Standing.commit_of_not_admits (standing : engine.Standing config batches)
    (sane : batch.Sane config) (refused : ¬engine.Admits batch) :
    (engine.commit batch).1 = .error .closed ∧ (engine.commit batch).2.root = engine.root := by
  have stops : engine.Stops batch .closed := by
    cases isClosed : engine.closed with
    | true => exact .closed isClosed
    | false => exact .unserved isClosed sane.valid fun served => refused ⟨isClosed, served⟩
  obtain ⟨counters, done, -⟩ := commit_of_stops standing.ready stops false
  rw [done]
  exact ⟨rfl, rfl⟩

/-- So is one that no segment can hold. -/
theorem Standing.commit_of_not_fits (standing : engine.Standing config batches)
    (sane : batch.Sane config) (admits : engine.Admits batch) (exceeds : ¬batch.Fits config) :
    (engine.commit batch).1 =
        .error (.argument (.tooManyDocuments (batch.analyzed config).length)) ∧
      (engine.commit batch).2.root = engine.root := by
  obtain rfl := standing.sameConfig
  rw [commit_of_tooMany (standing.ready admits.1) sane.valid admits.2 (not_rejects_of_sane sane)
    exceeds]
  exact ⟨rfl, rfl⟩

/-- Whether an edit is committed in a batch of its own. -/
def takes (engine : Engine) (edit : Edit) : Bool :=
  !engine.closed && !(engine.pool.closed && edit.puts)

theorem takes_iff {edit : Edit} : engine.takes edit ↔ engine.Admits edit.batch := by
  unfold takes Admits Serves
  rw [Edit.putsAny_batch, Bool.and_eq_true, Bool.not_eq_true', Bool.not_eq_true',
    ← Bool.not_eq_true, ← Bool.not_eq_true, Bool.and_eq_true]

/-- An edit in a batch of its own gives a receipt if it is taken, and an error if it is not. -/
def Settles (engine : Engine) (edit : Edit) (result : Except IndexError Receipt) : Prop :=
  if engine.takes edit then ∃ receipt, result = .ok receipt ∧ receipt.failures = []
  else result = .error .closed

/-- **Edits one by one** are committed if they are taken, and the others are refused. What is taken
never changes on the way. -/
theorem Reached.commitAll_edits (reached : engine.Reached config batches) {edits : List Edit}
    (sane : ∀ edit ∈ edits, edit.batch.Sane config)
    (room : engine.publisher.issued + edits.length < UInt64.size) :
    (engine.commitAll (edits.map Edit.batch)).2.Reached config
        (batches ++ (edits.filter engine.takes).map Edit.batch) ∧
      List.Forall₂ engine.Settles edits (engine.commitAll (edits.map Edit.batch)).1 := by
  induction edits generalizing engine batches with
  | nil =>
    rw [List.filter_nil, List.map_nil, List.append_nil]
    exact ⟨reached, .nil⟩
  | cons edit rest ih =>
    rw [List.forall_mem_cons] at sane
    rw [List.length_cons] at room
    obtain ⟨sameClosed, samePool, issued⟩ := reached.standing.commit_keeps edit.batch
    have later : (engine.commit edit.batch).2.publisher.issued + rest.length < UInt64.size := by
      omega
    have sameTakes : (engine.commit edit.batch).2.takes = engine.takes := by
      unfold takes
      rw [sameClosed, samePool]
    have sameSettles : (engine.commit edit.batch).2.Settles = engine.Settles := by
      unfold Settles
      rw [sameTakes]
    by_cases takes : engine.takes edit
    · obtain ⟨receipt, done, complete⟩ :=
        reached.standing.commit_of_admits sane.1 (takes_iff.mp takes) (edit.fits_batch config)
          (decide_eq_true (by omega))
      have others := ih (reached.commits (Prod.ext done rfl)) sane.2 later
      rw [sameTakes, sameSettles] at others
      rw [List.filter_cons_of_pos takes, List.map_cons, List.append_cons]
      refine ⟨others.1, .cons ?_ others.2⟩
      unfold Settles
      rw [if_pos takes]
      exact ⟨receipt, done, complete⟩
    · obtain ⟨refused, -⟩ :=
        reached.standing.commit_of_not_admits sane.1 (takes_iff.not.mp takes)
      have others := ih (reached.fails (Prod.ext refused rfl)) sane.2 later
      rw [sameTakes, sameSettles] at others
      rw [List.filter_cons_of_neg takes]
      refine ⟨others.1, .cons ?_ others.2⟩
      unfold Settles
      rw [if_neg takes]
      exact refused

/-- What a batch that is admitted gathers is what its edits come to that are taken on their own. -/
theorem ofEdits_taken {edits : List Edit} (admits : engine.Admits (.ofEdits edits)) :
    Batch.ofEdits (edits.filter engine.takes) = .ofEdits edits := by
  obtain ⟨isOpen, served⟩ := admits
  cases isClosed : engine.pool.closed with
  | false =>
    congr 1
    refine List.filter_eq_self.mpr fun edit _ => ?_
    unfold takes
    rw [isOpen, isClosed]
    rfl
  | true =>
    have sameTakes : engine.takes = fun edit => !edit.puts := by
      funext edit
      unfold takes
      rw [isOpen, isClosed]
      rfl
    rw [sameTakes]
    exact Batch.ofEdits_withoutPuts fun puts => served ⟨isClosed, puts⟩

/-- If a batch that is not admitted gathers edits that put documents only, none of them is taken on
its own. -/
theorem takes_none (refused : ¬engine.Admits (.ofEdits edits))
    (puts : engine.closed = false → ∀ edit ∈ edits, edit.puts) :
    edits.filter engine.takes = [] := by
  refine List.filter_eq_nil_iff.mpr fun edit member takes => ?_
  obtain ⟨isOpen, served⟩ := takes_iff.mp takes
  obtain ⟨isClosed, -⟩ := not_not.mp fun serves => refused ⟨isOpen, serves⟩
  exact served ⟨isClosed, edit.putsAny_batch.mpr (puts isOpen edit member)⟩

/-- **Edits leave an index that looks the same, whether committed together or one by one**, if no
deadline passes and there are numbers left for one more than all of them. There are two exceptions.
In an open index whose pool is closed, if the edits still put a document when they are gathered but
do more than that, all of them are refused together, and one by one only those that put documents
are. And in an open index whose pool is open, if they put more documents than a segment can hold,
all of them are refused together, and none of them one by one. -/
theorem Reached.commit_edits (reached : engine.Reached config batches) {edits : List Edit}
    (sane : ∀ edit ∈ edits, edit.batch.Sane config)
    (room : engine.publisher.issued + edits.length + 1 < UInt64.size) :
    let together := engine.commit (.ofEdits edits)
    let apart := engine.commitAll (edits.map Edit.batch)
    let unserved := engine.closed = false ∧ engine.pool.closed = true ∧
      (Batch.ofEdits edits).PutsAny
    let exceeds := engine.closed = false ∧ engine.pool.closed = false ∧
      ¬(Batch.ofEdits edits).Fits config
    (¬(unserved ∧ ∃ edit ∈ edits, ¬edit.puts) → ¬exceeds →
      together.2.root.LooksLike apart.2.root) ∧
      (¬unserved → ¬exceeds → engine.closed = false →
        ∃ receipt, together.1 = .ok receipt ∧ receipt.failures = []) ∧
      (unserved → together.1 = .error .closed ∧ together.2.root = engine.root) ∧
      (exceeds → together.1 = .error (.argument (.tooManyDocuments
          ((Batch.ofEdits edits).analyzed config).length)) ∧
        together.2.root = engine.root) ∧
      apart.2.root.MadeOf config (batches ++ (edits.filter engine.takes).map Edit.batch) ∧
      List.Forall₂ engine.Settles edits apart.1 := by
  intro together apart unserved exceeds
  have standing := reached.standing
  have gathered : (Batch.ofEdits edits).Sane config := Batch.sane_ofEdits sane
  obtain ⟨apartReached, settled⟩ := reached.commitAll_edits sane (Nat.lt_of_succ_lt room)
  have apartMade := apartReached.standing.made
  have refuses (tooMany : exceeds) : together.1 = _ ∧ together.2.root = engine.root :=
    standing.commit_of_not_fits gathered ⟨tooMany.1, fun ⟨isClosed, _⟩ =>
      Bool.noConfusion (isClosed.symm.trans tooMany.2.1)⟩ tooMany.2.2
  by_cases admits : engine.Admits (.ofEdits edits)
  · have served : ¬unserved := fun ⟨_, notServed⟩ => admits.2 notServed
    have committed (holds : ¬exceeds) :
        ∃ receipt, together.1 = .ok receipt ∧ receipt.failures = [] := by
      refine standing.commit_of_admits gathered admits ?_ (decide_eq_true (by omega))
      by_contra tooMany
      refine holds ⟨admits.1, Bool.eq_false_iff.mpr fun isClosed => tooMany ?_, tooMany⟩
      exact Batch.fits_of_putsNone fun puts => admits.2 ⟨isClosed, puts⟩
    refine ⟨fun _ holds => ?_, fun _ holds _ => committed holds,
      fun notServed => absurd notServed served, refuses, apartMade, settled⟩
    · obtain ⟨receipt, done, -⟩ := committed holds
      have togetherReached : together.2.Reached config (batches ++ [.ofEdits edits]) :=
        reached.commits (Prod.ext done rfl)
      refine togetherReached.standing.made.looksLike apartMade ?_
      rw [← ofEdits_taken admits]
      exact Catalog.after_ofEdits (fun edit member => sane edit (List.mem_filter.mp member).1) _
  · obtain ⟨failed, unchanged⟩ := standing.commit_of_not_admits gathered admits
    refine ⟨fun alike _ => ?_, fun served _ isOpen => ?_, fun _ => ⟨failed, unchanged⟩, refuses,
      apartMade, settled⟩
    · have takesNone : edits.filter engine.takes = [] := by
        refine takes_none admits fun isOpen edit member => ?_
        by_contra other
        have notServed := not_not.mp fun served => admits ⟨isOpen, served⟩
        exact alike ⟨⟨isOpen, notServed⟩, edit, member, other⟩
      rw [takesNone, List.map_nil, List.append_nil] at apartMade
      show Snapshot.LooksLike (engine.commit (.ofEdits edits)).2.root apart.2.root
      rw [unchanged]
      exact standing.made.looksLike apartMade rfl
    · exact absurd ⟨isOpen, fun notServed => served ⟨isOpen, notServed⟩⟩ admits

/-- A document is put, removed and put again, and another one is put and removed. Metadata is set
and removed under one key, and set under another. -/
def backAndForth : List Edit :=
  [.put {} "a", .setMetadata [1] [2], .remove "a", .setMetadata [3] [4],
    .put (Snapshot.tagged ["go"]) "a", .put {} "b", .removeMetadata [1], .remove "b"]

/-- Eight versions look like one. -/
theorem commit_backAndForth :
    standard.Reached (.standard 1) [] ∧
      (∀ edit ∈ backAndForth, edit.batch.Sane (.standard 1)) ∧
      (standard.commit (.ofEdits backAndForth)).1 = .ok ⟨1, 1, []⟩ ∧
      (standard.commitAll (backAndForth.map Edit.batch)).2.root.version = 8 ∧
      (standard.commit (.ofEdits backAndForth)).2.root.visibleIds = ["a"] ∧
      [[1], [3]].map (standard.commit (.ofEdits backAndForth)).2.root.metadata? =
        [none, some [4]] ∧
      (standard.commit (.ofEdits backAndForth)).2.root.LooksLike
        (standard.commitAll (backAndForth.map Edit.batch)).2.root := by
  have reached : standard.Reached (.standard 1) [] := .opened (.own openOwn_standard)
  have sane : ∀ edit ∈ backAndForth, edit.batch.Sane (.standard 1) := by
    have valid : ∀ edit ∈ backAndForth, edit.batch.validate = .ok () := by decide +kernel
    have succeeds : ∀ edit ∈ backAndForth, edit.batch.failures (.standard 1) = [] := by
      decide +kernel
    exact fun edit member => ⟨valid edit member, succeeds edit member⟩
  refine ⟨reached, sane, by decide +kernel, by decide +kernel, by decide +kernel,
    by decide +kernel, ?_⟩
  have alike := (reached.commit_edits sane (by decide)).1
  exact alike (fun ⟨⟨_, isClosed, _⟩, _⟩ => Bool.noConfusion isClosed) fun ⟨_, _, exceeds⟩ =>
    exceeds (by decide +kernel)

/-- Edits need not leave the same index. With a closed pool a batch that puts a document is refused
with the metadata that it sets, and one by one the metadata is set. -/
theorem not_commit_edits :
    ¬∀ (config : Config) (batches : List Batch) (engine : Engine) (edits : List Edit),
      engine.Reached config batches → (∀ edit ∈ edits, edit.batch.Sane config) →
        (engine.commit (.ofEdits edits)).2.root.LooksLike
          (engine.commitAll (edits.map Edit.batch)).2.root := by
  intro same
  let edits : List Edit := [.put {} "a", .setMetadata [1] [2]]
  have sane : ∀ edit ∈ edits, edit.batch.Sane lenientConfig := by
    have valid : ∀ edit ∈ edits, edit.batch.validate = .ok () := by decide +kernel
    have succeeds : ∀ edit ∈ edits, edit.batch.failures lenientConfig = [] := by decide +kernel
    exact fun edit member => ⟨valid edit member, succeeds edit member⟩
  have together : (unserved.commit (.ofEdits edits)).2.root.metadata? [1] = none := by
    decide +kernel
  have apart : (unserved.commitAll (edits.map Edit.batch)).2.root.metadata? [1] = some [2] := by
    decide +kernel
  have metadata := (same lenientConfig [] unserved edits reached_unserved sane).metadata [1]
  rw [together, apart] at metadata
  cases metadata

end Engine

end TextIndex
