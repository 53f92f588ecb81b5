import TextIndex.Proofs.Engine.AllOrNothing

/-!
# Documents that are left out

Where a batch is not rejected for documents that cannot be analyzed, these are left out, and the
commit comes to what it would have come to without them. A pool that is closed does not find out
which documents these are: it takes none, and then the batch gives an error even if nothing would be
left of it.

* `Batch.admitted`: a batch without the documents that cannot be analyzed.
* `Engine.proposal_admitted`: both introduce the same.
* `Engine.Reached.commit_leaves_out`: both commits come to the same, unless the pool is closed.
* `Engine.not_commit_eq_admitted`: the pool has to be excepted.
-/

namespace TextIndex

namespace Batch

/-- A batch without the documents that it puts and that cannot be analyzed. -/
def admitted (batch : Batch) (config : Config) : Batch where
  documents := batch.documents.filter fun id edit => edit.all (config.accepts id)
  metadata := batch.metadata
  keyed := by
    intro id document held
    rw [Std.ExtTreeMap.getElem?_filter', Option.filter_eq_some_iff] at held
    exact batch.keyed id document held.1

variable {batch : Batch} {config : Config} {id : String}

theorem getElem?_admitted : (batch.admitted config).documents[id]? =
    batch.documents[id]?.filter fun edit => edit.all (config.accepts id) :=
  Std.ExtTreeMap.getElem?_filter'

theorem toList_admitted : (batch.admitted config).documents.toList =
    batch.documents.toList.filter fun entry => entry.2.all (config.accepts entry.1) :=
  Std.ExtTreeMap.toList_filter

/-- Exactly the documents that cannot be analyzed are missing. -/
theorem fails_iff_missing : batch.Fails config id ↔
    id ∈ batch.documents ∧ id ∉ (batch.admitted config).documents := by
  rw [fails_iff, Std.ExtTreeMap.mem_iff_isSome_getElem?, Std.ExtTreeMap.mem_iff_isSome_getElem?,
    getElem?_admitted]
  cases held : batch.documents[id]? with
  | none => simp
  | some edit =>
    cases edit with
    | none => simp
    | some document => simp [Option.filter_some]

theorem putDocuments_admitted : (batch.admitted config).putDocuments =
    batch.putDocuments.filter fun entry => config.accepts entry.1 entry.2 := by
  unfold putDocuments
  rw [toList_admitted, List.filterMap_filter, List.filter_filterMap]
  refine List.filterMap_congr fun entry _ => ?_
  obtain ⟨id, edit⟩ := entry
  cases edit with
  | none => rfl
  | some document => simp [Option.filter_some]

theorem analyzed_admitted : (batch.admitted config).analyzed config = batch.analyzed config := by
  unfold analyzed
  rw [putDocuments_admitted, List.filterMap_filter]
  refine List.filterMap_congr fun entry _ => ?_
  unfold Config.accepts
  cases config.outcome entry.1 entry.2 <;> rfl

/-- What is left can be analyzed. -/
theorem failures_admitted : (batch.admitted config).failures config = [] := by
  unfold failures
  rw [putDocuments_admitted, List.filterMap_filter, List.filterMap_eq_nil_iff]
  intro entry _
  unfold Config.accepts Config.failure?
  cases config.outcome entry.1 entry.2 <;> rfl

theorem touched_admitted : (batch.admitted config).touched =
    Engine.remaining batch.touched (batch.failures config) := by
  have any_failures {id : String} :
      (batch.failures config).any (·.id == id) = true ↔ batch.Fails config id := by
    rw [fails_iff, ← exists_failure_iff]
    simp
  unfold Engine.remaining touched
  rw [← Std.ExtTreeMap.map_fst_toList_eq_keys, ← Std.ExtTreeMap.map_fst_toList_eq_keys,
    toList_admitted, List.filter_map]
  congr 1
  refine List.filter_congr fun entry member => ?_
  have held := Std.ExtTreeMap.mem_toList_iff_getElem?_eq_some.mp member
  rw [Function.comp_apply, Bool.eq_iff_iff, Bool.not_eq_true', ← Bool.not_eq_true, any_failures,
    fails_iff, held]
  cases entry.2 <;> simp

theorem validate_admitted (valid : batch.validate = .ok ()) :
    (batch.admitted config).validate = .ok () := by
  rw [validate_eq_ok] at valid ⊢
  refine ⟨fun entry member => valid.1 entry ?_, valid.2⟩
  rw [toList_admitted] at member
  exact (List.mem_filter.mp member).1

theorem putsAny_of_admitted (puts : (batch.admitted config).PutsAny) : batch.PutsAny := by
  obtain ⟨id, document, held⟩ := puts
  rw [getElem?_admitted, Option.filter_eq_some_iff] at held
  exact ⟨id, document, held.1⟩

/-- A snapshot follows another by a batch, of which failures name the documents that are left
out. -/
structure LeavesOut (batch : Batch) (config : Config) (failures : List DocumentFailure)
    (before after : Snapshot) : Prop where
  once : (failures.map (·.id)).Nodup
  named : ∀ id, id ∈ failures.map (·.id) ↔
    id ∈ batch.documents ∧ id ∉ (batch.admitted config).documents
  kept : ∀ id ∈ failures.map (·.id),
    after.locations id = before.locations id ∧ after.document? id = before.document? id
  /-- If no edit is left, the version is all that is new. -/
  nothing : (∀ id ∈ batch.documents, id ∈ failures.map (·.id)) → batch.metadata = ∅ →
    after = { before with version := before.version + 1 }

end Batch

/-- An introduction of nothing only makes a new version. -/
theorem Snapshot.splice_of_nothing {snapshot : Snapshot} {introduction : Introduction}
    (noDocuments : introduction.segment.docCount = 0) (nobody : introduction.touched = [])
    (noMetadata : introduction.metadata = ∅) (id : Nat) :
    snapshot.splice id introduction = { snapshot with version := snapshot.version + 1 } := by
  have nothingHidden (view : SegmentView) : view.hide ∅ = view := by
    have same : view.hidden ∪ ∅ = view.hidden :=
      Std.ExtTreeSet.ext_mem fun doc => by simp [Std.ExtTreeSet.mem_union_iff]
    unfold SegmentView.hide
    rw [same]
  have sameMetadata : introduction.metadata.apply snapshot.metadata = snapshot.metadata := by
    refine Std.ExtTreeMap.ext_getElem? fun key => ?_
    rw [noMetadata, Catalog.getElem?_apply, Std.ExtTreeMap.getElem?_empty]
    rfl
  unfold splice Introduction.added
  rw [if_pos noDocuments, nobody, sameMetadata]
  show (⟨_, (snapshot.segments.map fun view => view.hide ∅) ++ [], _⟩ : Snapshot) = _
  rw [List.append_nil, List.map_congr_left fun view _ => nothingHidden view, List.map_id']

namespace Engine

variable {config : Config} {batches : List Batch} {engine : Engine} {batch : Batch}

theorem remaining_nil (touched : List String) : remaining touched [] = touched := by
  simp [remaining]

/-- A batch introduces what it introduces without the documents that cannot be analyzed. -/
theorem proposal_admitted :
    engine.proposal (batch.admitted engine.config) = engine.proposal batch := by
  unfold proposal introductionOf
  rw [failures_answers, failures_answers, Batch.failures_admitted, Batch.analyzed_admitted,
    remaining_nil, Batch.touched_admitted]
  rfl

theorem Serves.admitted (served : engine.Serves batch) (config : Config) :
    engine.Serves (batch.admitted config) := fun ⟨isClosed, puts⟩ =>
  served ⟨isClosed, Batch.putsAny_of_admitted puts⟩

theorem not_rejects_of_lenient (lenient : engine.config.policy = .skip) (batch : Batch) :
    ¬engine.Rejects batch := fun ⟨strict, _⟩ => nomatch lenient.symm.trans strict

/-- Where nothing is rejected, a batch comes to what it comes to without the documents that cannot
be analyzed. -/
theorem commit_admitted (ready : engine.Ready) (valid : batch.validate = .ok ())
    (served : engine.Serves batch) (lenient : engine.config.policy = .skip) (late : Bool) :
    (engine.commit (batch.admitted engine.config) late).1 =
        (engine.commit batch late).1.map (fun receipt => { receipt with failures := [] }) ∧
      ∃ counters, (engine.commit (batch.admitted engine.config) late).2 =
        (engine.commit batch late).2.withCounters counters := by
  have alsoValid := @Batch.validate_admitted batch engine.config valid
  have alsoServed := served.admitted engine.config
  have kept := not_rejects_of_lenient lenient
  by_cases fits : batch.Fits engine.config
  · have alsoFits : (batch.admitted engine.config).Fits engine.config := by
      unfold Batch.Fits
      rw [Batch.analyzed_admitted]
      exact fits
    obtain ⟨counters, done⟩ := @exists_commit_of_fits _ _ late ready valid served (kept _) fits
    obtain ⟨others, alone⟩ :=
      @exists_commit_of_fits _ _ late ready alsoValid alsoServed (kept _) alsoFits
    rw [proposal_admitted, Batch.failures_admitted] at alone
    rw [done, alone]
    refine ⟨?_, others, rfl⟩
    cases (engine.publish (engine.proposal batch) late).1 <;> rfl
  · have alsoExceeds : ¬(batch.admitted engine.config).Fits engine.config := by
      unfold Batch.Fits
      rw [Batch.analyzed_admitted]
      exact fits
    rw [commit_of_tooMany ready valid served (kept _) fits,
      commit_of_tooMany ready alsoValid alsoServed (kept _) alsoExceeds, Batch.analyzed_admitted]
    exact ⟨rfl, _, rfl⟩

/-- A batch of which no edit is left contributes nothing. -/
theorem splice_contribution_of_nothing
    (fails : ∀ id ∈ batch.documents, batch.Fails engine.config id)
    (noMetadata : batch.metadata = ∅) (root : Snapshot) (id : Nat) :
    root.splice id (engine.contribution batch) = { root with version := root.version + 1 } := by
  have untouched (id : String) : ¬batch.Touches engine.config id := by
    rw [Batch.touches_iff, ← Option.isSome_iff_ne_none, ← Std.ExtTreeMap.mem_iff_isSome_getElem?]
    exact fun ⟨member, succeeds⟩ => succeeds (fails id member)
  have noDocuments : batch.analyzed engine.config = [] := by
    refine List.eq_nil_iff_forall_not_mem.mpr fun analyzed member => ?_
    obtain ⟨id, document, accepted, -⟩ := Batch.mem_analyzed.mp member
    exact untouched id (Batch.touches_of_accepted? accepted)
  refine Snapshot.splice_of_nothing ?_ ?_ noMetadata id
  · rw [segment_contribution, noDocuments, Segment.ofAnalyzed, List.mergeSort_nil]
    rfl
  · refine List.eq_nil_iff_forall_not_mem.mpr fun id member => ?_
    exact untouched id (mem_touched_contribution.mp member)

/-- What is published shows that the documents that cannot be analyzed were left out. -/
theorem leavesOut_splice (ready : engine.Ready) (valid : batch.validate = .ok ()) :
    batch.LeavesOut engine.config (batch.failures engine.config) engine.root
      (engine.root.splice (engine.publisher.issued + 1) (engine.contribution batch)) where
  once := Batch.nodup_ids_failures
  named := fun _ => Batch.fails_iff_mem.symm.trans Batch.fails_iff_missing
  kept := fun id named =>
    (doneIn_splice ready.sound ready.clear valid).kept id (.inr (Batch.fails_iff_mem.mpr named))
  nothing := fun fails noMetadata => splice_contribution_of_nothing
    (fun id member => Batch.fails_iff_mem.mpr (fails id member)) noMetadata _ _

/-- **A commit that leaves documents out comes to what it would come to without them**: the same
version and the same segment number, or the same error, and the same engine afterwards but for
counters. There is a receipt if a segment can hold the documents that can be analyzed, there is a
number left for it, and no deadline passes. It names what was left out, and that stays as it was.
Only if the pool is closed and the batch puts any documents, it gives an error of its own. After an
error what can be read is the same. -/
theorem Reached.commit_leaves_out (reached : engine.Reached config batches)
    (isOpen : engine.closed = false) (lenient : config.policy = .skip)
    (valid : batch.validate = .ok ()) (late : Bool) :
    let rest := batch.admitted config
    (¬(engine.pool.closed = true ∧ batch.PutsAny) →
      (engine.commit rest late).1 =
          (engine.commit batch late).1.map (fun receipt => { receipt with failures := [] }) ∧
        (engine.commit rest late).2.root = (engine.commit batch late).2.root ∧
        (∃ counters,
          (engine.commit rest late).2 = (engine.commit batch late).2.withCounters counters) ∧
        ((∃ receipt, (engine.commit batch late).1 = .ok receipt) ↔
          batch.Fits config ∧ engine.publisher.issued + 1 < UInt64.size ∧
            (late = true → config.deadline = none)) ∧
        ∀ receipt, (engine.commit batch late).1 = .ok receipt →
          batch.LeavesOut config receipt.failures engine.root (engine.commit batch late).2.root) ∧
    (engine.pool.closed = true ∧ batch.PutsAny →
      (engine.commit batch late).1 = .error .closed ∧
        (rest.PutsAny → (engine.commit rest late).1 = .error .closed)) ∧
    ∀ error, (engine.commit batch late).1 = .error error →
      (engine.commit batch late).2.root = engine.root := by
  have standing := reached.standing
  have ready := standing.ready isOpen
  obtain rfl := standing.sameConfig
  refine ⟨fun served => ?_, fun unserved => ?_, fun error failed => ?_⟩
  · have kept := not_rejects_of_lenient lenient batch
    have decided := @exists_receipt_iff engine batch late ready valid served kept
    obtain ⟨same, counters, sameEngine⟩ := commit_admitted ready valid served lenient late
    refine ⟨same, ?_, ⟨counters, sameEngine⟩, decided, fun receipt done => ?_⟩
    · rw [sameEngine]
      rfl
    · obtain ⟨fits, hasNumber, inTime⟩ := decided.mp ⟨receipt, done⟩
      have passes : engine.Passes batch :=
        ⟨isOpen, valid, served, kept, fits, Publisher.hasNumber_iff.mpr hasNumber⟩
      replace inTime := passedDeadline?_eq_none.mpr inTime
      obtain ⟨counters, answered⟩ := commit_of_passes ready passes inTime
      rw [answered] at done ⊢
      cases done
      show batch.LeavesOut _ _ _ (engine.publish _ late).2.root
      rw [root_publish ready passes inTime]
      exact leavesOut_splice ready valid
  · rw [commit_of_unserved ready valid (not_not.mpr unserved)]
    refine ⟨rfl, fun puts => ?_⟩
    rw [commit_of_unserved ready (Batch.validate_admitted valid) (not_not.mpr ⟨unserved.1, puts⟩)]
  · rcases standing.commit_cases batch late with refused | ⟨_, _, _, _, published⟩
    · obtain ⟨_, _, _, same, -⟩ := refused
      rw [same]
    · obtain ⟨_, _, _, same, -⟩ := published
      rw [same] at failed
      cases failed

/-- The standard configuration for one processor, but that documents are left out. -/
def lenientConfig : Config :=
  { Config.standard 1 with policy := .skip }

/-- The index of this configuration. -/
def lenient : Engine where
  config := lenientConfig
  pool := { workers := 1, capacity := 16 }
  ownsPool := true

/-- One of two documents is left out. -/
theorem commit_lenient_halfGood :
    lenient.Reached lenientConfig [] ∧ lenient.closed = false ∧ lenientConfig.policy = .skip ∧
      halfGood.validate = .ok () ∧ ¬(lenient.pool.closed = true ∧ halfGood.PutsAny) ∧
      ∃ receipt, (lenient.commit halfGood).1 = .ok receipt ∧
        (lenient.commit (halfGood.admitted lenientConfig)).1 =
          .ok { receipt with failures := [] } ∧
        receipt.version = 1 ∧ receipt.failures.map (·.id) = ["b"] ∧
        halfGood.LeavesOut lenientConfig receipt.failures lenient.root
          (lenient.commit halfGood).2.root := by
  have reached : lenient.Reached lenientConfig [] := .opened (.own rfl)
  have valid : halfGood.validate = .ok () := by decide +kernel
  have served : ¬(lenient.pool.closed = true ∧ halfGood.PutsAny) := fun ⟨isClosed, _⟩ =>
    Bool.noConfusion isClosed
  obtain ⟨alone, -, -, -, leavesOut⟩ := (reached.commit_leaves_out rfl rfl valid false).1 served
  have told : (lenient.commit halfGood).1 = .ok ⟨1, 1,
      [⟨"b", "Analysis error: field 'score': non-finite numeric value NaN"⟩]⟩ := by decide +kernel
  rw [told] at alone
  exact ⟨reached, rfl, rfl, valid, served, _, told, alone, rfl, rfl, leavesOut _ told⟩

/-- An index of this configuration that has lost its pool. -/
def unserved : Engine where
  config := lenientConfig
  pool := { workers := 1, capacity := 1, closed := true }
  ownsPool := false

theorem reached_unserved : unserved.Reached lenientConfig [] := by
  let pool : WorkerPool := { workers := 1, capacity := 1 }
  have used : pool.Reachable := .start (rfl : WorkerPool.start 1 1 = .ok pool)
  have opened : Engine.Reached lenientConfig []
      { config := lenientConfig, pool, ownsPool := false } := .opened (.shared used rfl)
  exact opened.sharesPool rfl used.close fun _ => rfl

/-- A document that cannot be analyzed, and nothing else. -/
def onlyBad : Batch :=
  (Batch.empty.put { fields := [⟨"score", .float .nan, {}⟩] } "b").2

/-- A commit need not come to what it would come to without the documents that cannot be analyzed:
with a closed pool a batch of one such document gives an error, and the batch without it makes a new
version. -/
theorem not_commit_eq_admitted :
    ¬∀ (config : Config) (batches : List Batch) (engine : Engine) (batch : Batch),
      engine.Reached config batches → engine.closed = false → config.policy = .skip →
      batch.validate = .ok () →
        ∀ receipt, (engine.commit (batch.admitted config)).1 = .ok receipt →
          ∃ other, (engine.commit batch).1 = .ok other ∧ other.version = receipt.version := by
  intro same
  have alone : (unserved.commit (onlyBad.admitted lenientConfig)).1 = .ok ⟨1, 1, []⟩ := by
    decide +kernel
  have refused : (unserved.commit onlyBad).1 = .error .closed := by decide +kernel
  obtain ⟨other, done, -⟩ := same lenientConfig [] unserved onlyBad reached_unserved rfl rfl
    (by decide +kernel) _ alone
  cases refused.symm.trans done

end Engine

end TextIndex
