import TextIndex.Proofs.Engine.Gathering

/-!
# Calls on an index

A session is an engine with the commits that calls made on it, each with the snapshot that it
published. Calls come one after the other, and each makes one edit or gathers several in a batch.
Those that give an error publish nothing. The others publish the versions one, two, three and so on,
and what is read from each of these snapshots is what the edits committed so far come to, said
without batches: of the edits that are committed together the last one counts under each external id
and under each key.

* `Catalog.editAll`: what edits that are committed together do to the maps.
* `Catalog.commit_ofEdits_eq`: the batch that gathers them does the same.
* `Session.run`: any calls, one after the other.
* `Session.Faithful`: what every call preserves.
* `Session.run_represents`: what the published snapshots show.
-/

namespace TextIndex

/-! ### Edits of the maps -/

namespace Catalog

variable {config : Config} {catalog : Catalog} {edits : List Edit}

/-- The maps after one edit. A document that cannot be analyzed changes nothing. -/
def edit (config : Config) (catalog : Catalog) : Edit → Catalog
  | .put document fresh =>
    let id := document.id.getD fresh
    let own := { document with id := some id }
    if config.accepts id own then
      { catalog with documents := catalog.documents.insert id own }
    else catalog
  | .remove id => { catalog with documents := catalog.documents.erase id }
  | .setMetadata key value => { catalog with metadata := catalog.metadata.insert key value }
  | .removeMetadata key => { catalog with metadata := catalog.metadata.erase key }

/-- The maps after edits that are committed together, of which those that last count. -/
def editAll (config : Config) (catalog : Catalog) (edits : List Edit) : Catalog :=
  (Edit.lasting edits).foldl (edit config) catalog

theorem documents_edit (config : Config) (catalog : Catalog) (edit : Edit) (id : String) :
    (catalog.edit config edit).documents[id]? =
      if edit.target = .inl id then afterEdit config (id, edit.document?) catalog.documents[id]?
      else catalog.documents[id]? := by
  cases edit with
  | put document fresh =>
    unfold Catalog.edit Edit.target Edit.document? afterEdit
    by_cases same : document.id.getD fresh = id
    · subst same
      simp only [if_true]
      split
      · exact Std.ExtTreeMap.getElem?_insert_self
      · rfl
    · rw [if_neg fun own => same (Sum.inl.inj own)]
      dsimp only
      split
      · rw [Std.ExtTreeMap.getElem?_insert, if_neg]
        exact fun own => same (Std.LawfulEqCmp.eq_of_compare own)
      · rfl
  | remove own =>
    unfold Catalog.edit Edit.target Edit.document? afterEdit
    rw [Std.ExtTreeMap.getElem?_erase]
    simp
  | setMetadata key value => rfl
  | removeMetadata key => rfl

theorem metadata_edit (config : Config) (catalog : Catalog) (edit : Edit) (key : Bytes) :
    (catalog.edit config edit).metadata[key]? =
      if edit.target = .inr key then edit.value? else catalog.metadata[key]? := by
  cases edit with
  | put document fresh =>
    unfold Catalog.edit
    dsimp only
    split <;> rfl
  | remove id => rfl
  | setMetadata own value =>
    unfold Catalog.edit Edit.target Edit.value?
    rw [Std.ExtTreeMap.getElem?_insert]
    simp
  | removeMetadata own =>
    unfold Catalog.edit Edit.target Edit.value?
    rw [Std.ExtTreeMap.getElem?_erase]
    simp

/-- If each target is edited once, its edit decides what becomes of it. -/
theorem documents_foldl_edit (distinct : (edits.map Edit.target).Nodup) (id : String) :
    (edits.foldl (edit config) catalog).documents[id]? =
      (Edit.last? edits (.inl id)).elim catalog.documents[id]? fun edit =>
        afterEdit config (id, edit.document?) catalog.documents[id]? := by
  induction edits using List.reverseRecOn with
  | nil => rfl
  | append_singleton edits last ih =>
    rw [List.map_append, List.nodup_append] at distinct
    rw [List.foldl_append, List.foldl_cons, List.foldl_nil, documents_edit, ih distinct.1,
      Edit.last?_concat]
    by_cases same : last.target = .inl id
    · have others : Edit.last? edits (.inl id) = none := by
        rw [Edit.last?_eq_none, Edit.touched, List.mem_dedup]
        exact fun member => distinct.2.2 _ member _ (List.mem_singleton_self _) same.symm
      rw [if_pos same, if_pos same, others]
      rfl
    · rw [if_neg same, if_neg same]

theorem metadata_foldl_edit (distinct : (edits.map Edit.target).Nodup) (key : Bytes) :
    (edits.foldl (edit config) catalog).metadata[key]? =
      (Edit.last? edits (.inr key)).elim catalog.metadata[key]? Edit.value? := by
  induction edits using List.reverseRecOn with
  | nil => rfl
  | append_singleton edits last ih =>
    rw [List.map_append, List.nodup_append] at distinct
    rw [List.foldl_append, List.foldl_cons, List.foldl_nil, metadata_edit, ih distinct.1,
      Edit.last?_concat]
    by_cases same : last.target = .inr key
    · rw [if_pos same, if_pos same]
      rfl
    · rw [if_neg same, if_neg same]

/-- **A batch does to the maps what the edits do that it gathers.** -/
theorem commit_ofEdits_eq (config : Config) (catalog : Catalog) (edits : List Edit) :
    catalog.commit config (.ofEdits edits) = catalog.editAll config edits := by
  have distinct : ((Edit.lasting edits).map Edit.target).Nodup := by
    rw [Edit.map_target_lasting]
    exact List.nodup_dedup _
  have documents : (catalog.commit config (.ofEdits edits)).documents =
      (catalog.editAll config edits).documents := by
    refine Std.ExtTreeMap.ext_getElem? fun id => ?_
    rw [editAll, documents_foldl_edit distinct, Edit.last?_lasting, documents_commit,
      Batch.documents_ofEdits]
    cases Edit.last? edits (.inl id) <;> rfl
  have metadata : (catalog.commit config (.ofEdits edits)).metadata =
      (catalog.editAll config edits).metadata := by
    refine Std.ExtTreeMap.ext_getElem? fun key => ?_
    rw [editAll, metadata_foldl_edit distinct, Edit.last?_lasting, metadata_commit,
      getElem?_apply, Batch.metadata_ofEdits]
    cases Edit.last? edits (.inr key) <;> rfl
  exact congrArg₂ Catalog.mk documents metadata

end Catalog

/-! ### Calls -/

/-- A call that may change an index. -/
inductive Call
  /-- Commit a batch after some calls on it. -/
  | commit (calls : List BatchCall)
  /-- Commit one edit. -/
  | single (edit : Edit)

/-- What a call is to edit. -/
def Call.edits : Call → List Edit
  | commit calls => BatchCall.editsSinceReset calls
  | single edit => [edit]

namespace Engine

/-- Make a call. -/
def call (engine : Engine) (call : Call) (late : Bool := false) :
    Except IndexError Receipt × Engine :=
  match call with
  | .commit calls => engine.commit (.ofCalls calls) late
  | .single (.put document fresh) => engine.put document fresh late
  | .single (.remove id) => engine.remove id late
  | .single (.setMetadata key value) => engine.setMetadata key value late
  | .single (.removeMetadata key) => engine.removeMetadata key late

theorem call_eq_commit (engine : Engine) (call : Call) (late : Bool) :
    engine.call call late = engine.commit (.ofEdits call.edits) late := by
  cases call with
  | commit calls => exact congrArg (engine.commit · late) (Batch.ofCalls_eq calls)
  | single edit => cases edit <;> rfl

end Engine

/-- Edits that were committed together, with the receipt and the snapshot that was then
published. -/
structure Commit where
  edits : List Edit
  receipt : Receipt
  snapshot : Snapshot

/-- An engine and the commits made on it so far. -/
structure Session where
  engine : Engine
  commits : List Commit := []

namespace Session

/-- Make a call, for which a deadline may pass, and keep a record of it if it commits something. -/
def call (session : Session) : Call × Bool → Session
  | (call, late) =>
    match session.engine.call call late with
    | (.ok receipt, engine) =>
      ⟨engine, session.commits ++ [⟨call.edits, receipt, engine.root⟩]⟩
    | (.error _, engine) => ⟨engine, session.commits⟩

/-- Make calls, one after the other. -/
def run (engine : Engine) (calls : List (Call × Bool)) : Session :=
  calls.foldl call ⟨engine, []⟩

/-- The maps that the first commits come to. -/
def catalogAt (config : Config) (session : Session) (version : Nat) : Catalog :=
  ((session.commits.take version).map (·.edits)).foldl (Catalog.editAll config) .empty

/-- The root is the last published snapshot, and every published snapshot shows what the commits up
to its version come to. -/
structure Faithful (config : Config) (session : Session) : Prop where
  ready : session.engine.Ready
  sameConfig : session.engine.config = config
  root : session.engine.root = (session.commits.getLast?.map (·.snapshot)).getD .empty
  version : session.engine.root.version = session.commits.length
  represents : session.engine.root.Represents (session.catalogAt config session.commits.length)
  commits : ∀ place commit, session.commits[place]? = some commit →
    commit.receipt.version = place + 1 ∧ commit.snapshot.version = place + 1 ∧
      commit.snapshot.Represents (session.catalogAt config (place + 1))

variable {config : Config}

theorem faithful_of_opened {engine : Engine} (opened : engine.Opened config) :
    Faithful config ⟨engine, []⟩ := by
  obtain ⟨ready, root, sameConfig⟩ := opened.ready
  refine ⟨ready, sameConfig, root, congrArg (·.version) root, ?_, fun _ _ held => nomatch held⟩
  show engine.root.Represents _
  rw [root]
  exact Snapshot.represents_empty

/-- Earlier versions are not changed by a commit. -/
theorem catalogAt_append {session : Session} {version : Nat}
    (earlier : version ≤ session.commits.length) (engine : Engine) (commit : Commit) :
    catalogAt config ⟨engine, session.commits ++ [commit]⟩ version =
      session.catalogAt config version := by
  unfold catalogAt
  rw [List.take_append_of_le_length earlier]

/-- A commit makes the next version. -/
theorem catalogAt_append_last (session : Session) (engine : Engine) (commit : Commit) :
    catalogAt config ⟨engine, session.commits ++ [commit]⟩ (session.commits.length + 1) =
      (session.catalogAt config session.commits.length).editAll config commit.edits := by
  unfold catalogAt
  rw [List.take_of_length_le (by simp), List.take_length, List.map_append, List.foldl_append]
  rfl

/-- A call that gives an error keeps a session faithful. -/
theorem Faithful.refused {session : Session} (faithful : session.Faithful config)
    {publisher : Publisher} (rests : session.engine.publisher.AtRest → publisher.AtRest)
    (issued : session.engine.publisher.issued ≤ publisher.issued) (counters : BatchCounters) :
    Faithful config ⟨{ session.engine with publisher, counters }, session.commits⟩ where
  ready := faithful.ready.recount rests issued counters
  sameConfig := faithful.sameConfig
  root := faithful.root
  version := faithful.version
  represents := faithful.represents
  commits := faithful.commits

/-- A call that commits something keeps a session faithful. -/
theorem Faithful.published {session : Session} (faithful : session.Faithful config)
    {edits : List Edit} {introduction : Introduction}
    (proposed :
      session.engine.proposal? session.engine.root (.ofEdits edits) = some introduction)
    {publisher : Publisher} (rests : publisher.AtRest)
    (issued : publisher.issued = session.engine.publisher.issued + 1)
    (counters : BatchCounters) {receipt : Receipt}
    (told : receipt.version = session.engine.root.version + 1) :
    let engine : Engine := { session.engine with
      root := session.engine.root.next (session.engine.publisher.issued + 1) introduction
      publisher
      counters }
    Faithful config ⟨engine, session.commits ++ [⟨edits, receipt, engine.root⟩]⟩ := by
  intro engine
  have ready := faithful.ready
  obtain ⟨valid, spliced⟩ := Engine.next_of_proposal? ready proposed
  have root : engine.root = session.engine.root.splice (session.engine.publisher.issued + 1)
      (session.engine.contribution (.ofEdits edits)) := spliced _
  have version : engine.root.version = session.commits.length + 1 :=
    congrArg (· + 1) faithful.version
  have represents : engine.root.Represents
      ((session.catalogAt config session.commits.length).editAll config edits) := by
    rw [root, ← Catalog.commit_ofEdits_eq]
    have shown := @Snapshot.Represents.commit _ _ faithful.represents ready.sound _ ready.clear
      session.engine _ valid
    rwa [faithful.sameConfig] at shown
  refine ⟨?_, faithful.sameConfig, ?_, ?_, ?_, ?_⟩
  · have proper := @Engine.proper_contribution session.engine _ valid
    have again := ready.splice proper rests issued counters
    rwa [← root] at again
  · simp
  · rw [version, List.length_append, List.length_singleton]
  · rw [List.length_append, List.length_singleton, catalogAt_append_last]
    exact represents
  · intro place commit held
    rcases held_of_concat held with ⟨earlier, heldBefore⟩ | ⟨rfl, rfl⟩
    · rw [catalogAt_append (Nat.succ_le_of_lt earlier)]
      exact faithful.commits place commit heldBefore
    · rw [catalogAt_append_last]
      exact ⟨told.trans (congrArg (· + 1) faithful.version), version, represents⟩

/-- **A call keeps a session faithful.** -/
theorem Faithful.call {session : Session} (faithful : session.Faithful config)
    (call : Call × Bool) : (session.call call).Faithful config := by
  obtain ⟨call, late⟩ := call
  unfold Session.call
  dsimp only
  rw [Engine.call_eq_commit]
  rcases @Engine.commit_of_ready _ (.ofEdits call.edits) late faithful.ready with
    refused | ⟨-, introduction, proposed, published⟩
  · obtain ⟨error, publisher, counters, same, rests, issued, -⟩ := refused
    rw [same]
    exact faithful.refused rests issued counters
  · obtain ⟨failures, counters, publisher, same, rests, issued⟩ := published
    rw [same]
    exact faithful.published proposed rests issued counters rfl

/-- **Every published snapshot shows what the edits committed up to its version come to**, whatever
the calls are, and whether or not deadlines pass. -/
theorem run_represents {engine : Engine} (opened : engine.Opened config)
    (calls : List (Call × Bool)) :
    let session := run engine calls
    (∀ place commit, session.commits[place]? = some commit →
      commit.receipt.version = place + 1 ∧ commit.snapshot.version = place + 1 ∧
        commit.snapshot.Represents (session.catalogAt config (place + 1))) ∧
      session.engine.snapshot = .ok ((session.commits.getLast?.map (·.snapshot)).getD .empty) ∧
      session.engine.root.Represents (session.catalogAt config session.commits.length) := by
  have faithful : (run engine calls).Faithful config := by
    unfold run
    generalize start : (⟨engine, []⟩ : Session) = session
    have first : session.Faithful config := start ▸ faithful_of_opened opened
    clear start
    induction calls generalizing session with
    | nil => exact first
    | cons call rest ih => exact ih _ (first.call call)
  refine ⟨faithful.commits, ?_, faithful.represents⟩
  unfold Engine.snapshot
  rw [faithful.ready.isOpen, ← faithful.root]
  rfl

/-- A batch sets a key of the metadata and is reset, and then puts a document twice, sets a second
key twice and a third one once. After it is committed the second key is set again, the third one is
removed, and at last the document and the second key are removed together. -/
def overwritten : List (Call × Bool) :=
  let first : List BatchCall := [.gather (.setMetadata [9] [9]), .reset, .gather (.put {} "a"),
    .gather (.setMetadata [1] [2]), .gather (.put { fields := [⟨"tag", .keyword "go", {}⟩] } "a"),
    .gather (.setMetadata [1] [3]), .gather (.setMetadata [4] [5])]
  let last : List BatchCall := [.gather (.remove "a"), .gather (.removeMetadata [1])]
  [(.commit first, false), (.single (.setMetadata [1] [6]), false),
    (.single (.removeMetadata [4]), true), (.commit last, false)]

/-- The four snapshots that are published, with what they hold under the external id and under the
three keys. -/
theorem run_represents_overwritten :
    Engine.openOwn (.standard 1) = .ok Engine.standard ∧
      (run Engine.standard overwritten).commits.map (·.snapshot.visibleIds) =
        [["a"], ["a"], ["a"], []] ∧
      (run Engine.standard overwritten).commits.map (fun commit =>
        (commit.snapshot.document? "a").map (·.map (·.name))) =
          [some ["tag", "_id"], some ["tag", "_id"], some ["tag", "_id"], none] ∧
      (run Engine.standard overwritten).commits.map (fun commit =>
        [[1], [4], [9]].map commit.snapshot.metadata?) =
          [[some [3], some [5], none], [some [6], some [5], none], [some [6], none, none],
            [none, none, none]] ∧
      ∀ place commit, (run Engine.standard overwritten).commits[place]? = some commit →
        commit.snapshot.version = place + 1 ∧ commit.snapshot.Represents
          ((run Engine.standard overwritten).catalogAt (.standard 1) (place + 1)) := by
  have published := (run_represents (.own Engine.openOwn_standard) overwritten).1
  exact ⟨Engine.openOwn_standard, by decide +kernel, by decide +kernel, by decide +kernel,
    fun place commit held => (published place commit held).2⟩

end Session

end TextIndex
