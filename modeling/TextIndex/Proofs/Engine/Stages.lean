import Mathlib
import TextIndex.Proofs.Engine.Commit

/-!
# The stages of a commit

A batch comes to the index, which may be closed; its edits are checked; its documents go to the pool
that analyzes them, which may be closed as well; if some cannot be analyzed, the index may be set up
to reject the batch; a segment may be too small for the others; and there may be no number left for
it. The first stage that a batch does not pass answers it. A batch that passes them all is
published, unless a deadline passes before the publisher turns to it.

* `Batch.Fails`: the documents of a batch that cannot be analyzed.
* `Engine.Stops`, `Engine.Passes`: what a commit is answered with, said without its stages.
* `Engine.commit_of_stops`: an error leaves everything but counters as it was.
* `Engine.commit_of_passes`: what a commit publishes in time.
* `Engine.counters_publish`: what is counted of it.
* `Engine.agree_commitAll`: counters make no difference to later answers.
-/

namespace TextIndex

open TextIndex.Time

namespace Batch

/-- Some document is put. -/
def PutsAny (batch : Batch) : Prop :=
  ∃ (id : String) (document : Document), batch.documents[id]? = some (some document)

/-- A batch puts a document under an external id that cannot be analyzed: an analyzer gives an error
or crashes, or a value cannot be indexed. -/
def Fails (batch : Batch) (config : Config) (id : String) : Prop :=
  ∃ document fault, batch.documents[id]? = some (some document) ∧
    analyzeDocument config.analyzers config.withPlaces (document.withIdentity id) = .error fault

variable {batch : Batch} {config : Config} {id : String}

theorem putDocuments_ne_nil : batch.putDocuments ≠ [] ↔ batch.PutsAny := by
  rw [← List.isEmpty_eq_false_iff, List.isEmpty_eq_false_iff_exists_mem]
  simp only [mem_putDocuments, Prod.exists, PutsAny]

/-- A batch that puts no document can be held by a segment. -/
theorem fits_of_putsNone (putsNone : ¬batch.PutsAny) : batch.Fits config := by
  have nothing : batch.putDocuments = [] := not_not.mp fun works =>
    putsNone (putDocuments_ne_nil.mp works)
  unfold Fits analyzed
  rw [nothing, List.filterMap_nil]
  decide

theorem outcome_eq_error {document : Document} {error : IndexError} :
    config.outcome id document = .error error ↔ ∃ fault,
      analyzeDocument config.analyzers config.withPlaces (document.withIdentity id) = .error fault ∧
        error = fault.toError := by
  unfold Config.outcome Work.outcome
  cases analyzeDocument config.analyzers config.withPlaces (document.withIdentity id) with
  | ok analyzed => simp [Except.mapError]
  | error fault => simp [Except.mapError, eq_comm]

theorem fails_iff : batch.Fails config id ↔ ∃ document,
    batch.documents[id]? = some (some document) ∧ config.accepts id document = false := by
  simp only [Config.accepts_eq_false, outcome_eq_error]
  constructor
  · rintro ⟨document, fault, held, failed⟩
    exact ⟨document, held, fault.toError, fault, failed, rfl⟩
  · rintro ⟨document, held, error, fault, failed, -⟩
    exact ⟨document, fault, held, failed⟩

theorem fails_iff_mem : batch.Fails config id ↔ id ∈ (batch.failures config).map (·.id) := by
  rw [fails_iff, ← exists_failure_iff, List.mem_map]

theorem failures_ne_nil : batch.failures config ≠ [] ↔ ∃ id, batch.Fails config id := by
  rw [← List.isEmpty_eq_false_iff, List.isEmpty_eq_false_iff_exists_mem]
  simp only [fails_iff_mem, List.mem_map]
  constructor
  · rintro ⟨failure, member⟩
    exact ⟨failure.id, failure, member, rfl⟩
  · rintro ⟨_, failure, member, _⟩
    exact ⟨failure, member⟩

/-- A batch touches the external ids of its edits, less those of documents that cannot be
analyzed. -/
theorem touches_iff : batch.Touches config id ↔
    batch.documents[id]? ≠ none ∧ ¬batch.Fails config id := by
  rw [fails_iff]
  constructor
  · rintro ⟨edit, held, accepts⟩
    refine ⟨by simp [held], fun ⟨document, same, refused⟩ => ?_⟩
    rw [accepts document (Option.some.inj (held.symm.trans same))] at refused
    cases refused
  · rintro ⟨isPut, succeeds⟩
    obtain ⟨edit, held⟩ := Option.ne_none_iff_exists'.mp isPut
    refine ⟨edit, held, fun document same => ?_⟩
    by_contra refused
    exact succeeds ⟨document, same ▸ held, Bool.not_eq_true _ ▸ refused⟩

/-- What a batch puts is accepted unless it fails. -/
theorem accepted?_of_put {document : Document}
    (held : batch.documents[id]? = some (some document)) (succeeds : ¬batch.Fails config id) :
    batch.accepted? config id = some document := by
  refine accepted?_eq_some.mpr ⟨held, ?_⟩
  by_contra refused
  exact succeeds (fails_iff.mpr ⟨document, held, Bool.not_eq_true _ ▸ refused⟩)

theorem accepted?_of_removed (held : batch.documents[id]? = some none) :
    batch.accepted? config id = none := by
  unfold accepted?
  rw [held]
  rfl

end Batch

namespace Engine

/-- The pool takes the documents of a batch, if there are any. -/
def Serves (engine : Engine) (batch : Batch) : Prop :=
  ¬(engine.pool.closed = true ∧ batch.PutsAny)

/-- The index is set up to reject the batch, since some document cannot be analyzed. -/
def Rejects (engine : Engine) (batch : Batch) : Prop :=
  engine.config.policy = .reject ∧ ∃ id, batch.Fails engine.config id

/-- The error that a batch is answered with, by the first stage that it does not pass. -/
inductive Stops (engine : Engine) (batch : Batch) : IndexError → Prop
  | closed (isClosed : engine.closed = true) : Stops engine batch .closed
  | invalid {fault : ArgumentFault} (isOpen : engine.closed = false)
      (faulty : batch.fault? = some fault) : Stops engine batch (.argument fault)
  | unserved (isOpen : engine.closed = false) (valid : batch.validate = .ok ())
      (unserved : ¬engine.Serves batch) : Stops engine batch .closed
  | rejected (isOpen : engine.closed = false) (valid : batch.validate = .ok ())
      (served : engine.Serves batch) (rejects : engine.Rejects batch) :
      Stops engine batch (.rejected (batch.failures engine.config))
  | tooMany (isOpen : engine.closed = false) (valid : batch.validate = .ok ())
      (served : engine.Serves batch) (kept : ¬engine.Rejects batch)
      (exceeds : ¬batch.Fits engine.config) :
      Stops engine batch (.argument (.tooManyDocuments (batch.analyzed engine.config).length))
  | usedUp (isOpen : engine.closed = false) (valid : batch.validate = .ok ())
      (served : engine.Serves batch) (kept : ¬engine.Rejects batch)
      (fits : batch.Fits engine.config) (usedUp : engine.publisher.hasNumber = false) :
      Stops engine batch (.index .numbersUsedUp)

/-- A batch passes all stages. -/
structure Passes (engine : Engine) (batch : Batch) : Prop where
  isOpen : engine.closed = false
  valid : batch.validate = .ok ()
  served : engine.Serves batch
  kept : ¬engine.Rejects batch
  fits : batch.Fits engine.config
  hasNumber : engine.publisher.hasNumber = true

variable {engine : Engine} {batch : Batch} {late : Bool}

theorem rejects_iff : engine.Rejects batch ↔
    batch.failures engine.config ≠ [] ∧ engine.config.policy = .reject := by
  rw [Batch.failures_ne_nil]
  exact And.comm

theorem stops_or_passes (engine : Engine) (batch : Batch) :
    (∃ error, engine.Stops batch error) ∨ engine.Passes batch := by
  cases isClosed : engine.closed with
  | true => exact .inl ⟨_, .closed isClosed⟩
  | false =>
    cases faulty : batch.fault? with
    | some fault => exact .inl ⟨_, .invalid isClosed faulty⟩
    | none =>
      have valid : batch.validate = .ok () := by
        unfold Batch.validate
        rw [faulty]
      by_cases served : engine.Serves batch
      · by_cases rejects : engine.Rejects batch
        · exact .inl ⟨_, .rejected isClosed valid served rejects⟩
        by_cases fits : batch.Fits engine.config
        · cases hasNumber : engine.publisher.hasNumber with
          | false => exact .inl ⟨_, .usedUp isClosed valid served rejects fits hasNumber⟩
          | true => exact .inr ⟨isClosed, valid, served, rejects, fits, hasNumber⟩
        · exact .inl ⟨_, .tooMany isClosed valid served rejects fits⟩
      · exact .inl ⟨_, .unserved isClosed valid served⟩

/-! ### The analysis -/

theorem works_ne_nil : engine.works batch ≠ [] ↔ batch.PutsAny := by
  rw [← Batch.putDocuments_ne_nil]
  unfold works
  rw [Ne, List.map_eq_nil_iff]

theorem analyzeAll_of_serves (numbered : engine.pool.Numbered) (served : engine.Serves batch) :
    engine.pool.analyzeAll (engine.works batch) = .ok (engine.answers batch) := by
  rw [WorkerPool.analyzeAll_eq numbered, if_neg]
  · rfl
  · rintro ⟨isClosed, works⟩
    exact served ⟨isClosed, works_ne_nil.mp works⟩

theorem analyzeAll_of_not_serves (numbered : engine.pool.Numbered)
    (unserved : ¬engine.Serves batch) :
    engine.pool.analyzeAll (engine.works batch) = .error .closed := by
  obtain ⟨isClosed, puts⟩ := not_not.mp unserved
  rw [WorkerPool.analyzeAll_eq numbered, if_pos ⟨isClosed, works_ne_nil.mpr puts⟩]

/-! ### Counters -/

/-- Two stages give the same, and leave engines that differ in counters at most. -/
inductive Agree {α : Type} : α × Engine → α × Engine → Prop
  | intro (result : α) (engine : Engine) (counters : BatchCounters) :
      Agree (result, engine) (result, engine.withCounters counters)

theorem Agree.map {α β : Type} {first second : α × Engine} (agree : Agree first second)
    (f : α → β) : Agree (f first.1, first.2) (f second.1, second.2) := by
  cases agree with
  | intro result engine counters => exact .intro _ _ _

section Counters

variable (engine : Engine) (counters : BatchCounters) (late : Bool)

/-- What is counted makes no difference to what is introduced. -/
theorem publish_withCounters (introduction : Introduction) :
    (engine.withCounters counters).publish introduction late =
      ((engine.publish introduction late).1,
        (engine.publish introduction late).2.withCounters counters) := by
  have submits : (engine.withCounters counters).publisher.submit introduction =
      engine.publisher.submit introduction := rfl
  unfold publish
  rw [submits]
  cases engine.publisher.submit introduction with
  | mk submitted publisher =>
    cases submitted with
    | error error => rfl
    | ok id => rfl

omit late

end Counters

/-! ### The answer -/

/-- A batch that gives an error is counted, and the error is given. -/
theorem commit_of_error {after : Engine} {error : IndexError}
    (refused : engine.apply batch late = (.error error, after)) :
    engine.commit batch late =
      (.error error, { after with counters := after.counters.addError }) := by
  unfold commit
  rw [refused]

/-- A closed index takes no batches. -/
theorem commit_of_closed (isClosed : engine.closed = true) (batch : Batch) (late : Bool) :
    engine.commit batch late =
      (.error .closed, { engine with counters := engine.counters.addError }) := by
  have shut : engine.checkOpen = .error .closed := by
    unfold checkOpen
    rw [if_pos isClosed]
  refine commit_of_error ?_
  unfold apply
  rw [shut]

/-- A batch with a fault is not taken on. -/
theorem commit_of_invalid (isOpen : engine.checkOpen = .ok ()) {error : IndexError}
    (invalid : batch.validate = .error error) :
    engine.commit batch late = (.error error, engine.withCounters engine.counters.addError) := by
  refine commit_of_error ?_
  unfold apply
  rw [isOpen, invalid]

section TakenOn

variable (ready : engine.Ready) (valid : batch.validate = .ok ())

include ready valid

/-- A batch whose documents the pool does not take was taken on. -/
theorem commit_of_unserved (unserved : ¬engine.Serves batch) :
    engine.commit batch late =
      (.error .closed, engine.withCounters (engine.counters.record batch).addError) := by
  have applied := @apply_of_checked engine batch late ready.checkOpen valid
  rw [analyzeAll_of_not_serves ready.numbered unserved] at applied
  exact commit_of_error applied

variable (served : engine.Serves batch)

include served

theorem apply_of_served : engine.apply batch late =
    (engine.withCounters (engine.counters.record batch)).conclude batch (engine.answers batch)
      late := by
  have applied := @apply_of_checked engine batch late ready.checkOpen valid
  rw [analyzeAll_of_serves ready.numbered served] at applied
  exact applied

/-- A batch that is rejected for its documents was taken on, and the documents that failed are
counted. -/
theorem commit_of_rejected (rejects : engine.Rejects batch) :
    engine.commit batch late = (.error (.rejected (batch.failures engine.config)),
      engine.withCounters
        ((engine.counters.record batch).addFailures (batch.failures engine.config)).addError) := by
  have fails := rejects_iff.mp rejects
  rw [← failures_answers] at fails ⊢
  let recorded := engine.withCounters (engine.counters.record batch)
  exact commit_of_error ((apply_of_served ready valid served).trans
    (@conclude_of_rejected recorded batch _ late fails))

variable (kept : ¬engine.Rejects batch)

include kept

/-- So was a batch with too many documents, and their texts are counted. -/
theorem commit_of_tooMany (exceeds : ¬batch.Fits engine.config) :
    engine.commit batch late =
      (.error (.argument (.tooManyDocuments (batch.analyzed engine.config).length)),
        engine.withCounters
          ((engine.counters.record batch).addAnswers (engine.answers batch)).addError) := by
  have passed := rejects_iff.not.mp kept
  have tooMany := Nat.lt_of_not_le (Batch.fits_iff.not.mp exceeds)
  rw [← failures_answers] at passed
  rw [← analyzed_answers] at tooMany ⊢
  let recorded := engine.withCounters (engine.counters.record batch)
  exact commit_of_error ((apply_of_served ready valid served).trans
    (@conclude_of_tooMany recorded batch _ late passed tooMany))

variable (fits : batch.Fits engine.config)

include fits

/-- A batch that comes so far comes to what its introduction comes to. -/
theorem apply_of_fits : engine.apply batch late =
    ((engine.publish (engine.proposal batch) late).1.map fun (version, segment) =>
        ⟨version, segment, batch.failures engine.config⟩,
      (engine.publish (engine.proposal batch) late).2.withCounters
        ((engine.counters.record batch).addAnswers (engine.answers batch))) := by
  have passed := rejects_iff.not.mp kept
  have few : ((engine.answers batch).filterMap Answer.analyzed?).length ≤ Segment.capacity := by
    rw [analyzed_answers]
    exact Batch.fits_iff.mp fits
  rw [← failures_answers] at passed
  let recorded := engine.withCounters (engine.counters.record batch)
  have concluded := (apply_of_served ready valid served).trans
    (@conclude_of_fits recorded batch _ late passed few)
  have published : (recorded.withCounters (recorded.counters.addAnswers
      (engine.answers batch))).publish (recorded.introductionOf batch (engine.answers batch)
        (.ofAnalyzed (batch.analyzed engine.config))) late = _ :=
    publish_withCounters engine _ late (engine.proposal batch)
  rw [failures_answers, analyzed_answers, published] at concluded
  exact concluded

theorem exists_commit_of_fits : ∃ counters, engine.commit batch late =
    ((engine.publish (engine.proposal batch) late).1.map fun (version, segment) =>
        ⟨version, segment, batch.failures engine.config⟩,
      (engine.publish (engine.proposal batch) late).2.withCounters counters) := by
  have applied := @apply_of_fits engine batch late ready valid served kept fits
  unfold commit
  rw [applied]
  cases (engine.publish (engine.proposal batch) late).1 with
  | ok published => exact ⟨_, rfl⟩
  | error error => exact ⟨_, rfl⟩

/-- Without a number left, nothing more comes of it. -/
theorem commit_of_usedUp (usedUp : engine.publisher.hasNumber = false) :
    engine.commit batch late = (.error (.index .numbersUsedUp), engine.withCounters
      ((engine.counters.record batch).addAnswers (engine.answers batch)).addError) := by
  have applied := @apply_of_fits engine batch late ready valid served kept fits
  rw [publish_of_usedUp ready.rests (engine.proposal batch) usedUp] at applied
  exact commit_of_error applied

/-- When a deadline passes, nothing is published. -/
theorem commit_of_overdue (hasNumber : engine.publisher.hasNumber = true) {deadline : Duration}
    (overdue : engine.passedDeadline? late = some deadline) :
    (engine.commit batch late).1 =
      .error (.timeout (.notIntroduced (engine.publisher.issued + 1) deadline)) := by
  obtain ⟨counters, committed⟩ :=
    @exists_commit_of_fits engine batch late ready valid served kept fits
  obtain ⟨publisher, published, -⟩ :=
    publish_of_overdue ready.rests (engine.proposal batch) hasNumber overdue
  rw [committed, published]
  rfl

end TakenOn

/-- **A batch that is stopped changes nothing but counters**, and is counted as an error. -/
theorem commit_of_stops {error : IndexError} (ready : engine.closed = false → engine.Ready)
    (stops : engine.Stops batch error) (late : Bool) :
    ∃ counters : BatchCounters,
      engine.commit batch late = (.error error, engine.withCounters counters) ∧
        counters.errors = engine.counters.errors + 1 := by
  cases stops with
  | closed isClosed => exact ⟨_, commit_of_closed isClosed batch late, rfl⟩
  | @invalid fault isOpen faulty =>
    have invalid : batch.validate = .error (.argument fault) := by
      unfold Batch.validate
      rw [faulty]
    exact ⟨_, commit_of_invalid (ready isOpen).checkOpen invalid, rfl⟩
  | unserved isOpen valid unserved =>
    exact ⟨_, commit_of_unserved (ready isOpen) valid unserved, rfl⟩
  | rejected isOpen valid served rejects =>
    exact ⟨_, commit_of_rejected (ready isOpen) valid served rejects, rfl⟩
  | tooMany isOpen valid served kept exceeds =>
    exact ⟨_, commit_of_tooMany (ready isOpen) valid served kept exceeds, rfl⟩
  | usedUp isOpen valid served kept fits usedUp =>
    exact ⟨_, commit_of_usedUp (ready isOpen) valid served kept fits usedUp, rfl⟩

section Passes

variable (ready : engine.Ready) (passes : engine.Passes batch)

include ready passes

/-- A batch that passes in time is published, and everything about it is counted. -/
theorem commit_eq_of_passes (inTime : engine.passedDeadline? late = none) :
    engine.commit batch late =
      (.ok ⟨engine.root.version + 1, engine.publisher.issued + 1, batch.failures engine.config⟩,
        (engine.publish (engine.proposal batch) late).2.withCounters
          ((engine.counters.record batch).addAnswers (engine.answers batch))) := by
  have applied := @apply_of_fits engine batch late ready passes.valid passes.served passes.kept
    passes.fits
  obtain ⟨publisher, published, -⟩ := publish_of_free ready.rests (engine.proposal batch)
    passes.hasNumber (ready.free passes.hasNumber) inTime
  rw [published] at applied ⊢
  unfold commit
  rw [applied]
  rfl

/-- **A batch that passes in time is published as the next version**, under the next segment
number. -/
theorem commit_of_passes (inTime : engine.passedDeadline? late = none) :
    ∃ counters, engine.commit batch late =
      (.ok ⟨engine.root.version + 1, engine.publisher.issued + 1, batch.failures engine.config⟩,
        (engine.publish (engine.proposal batch) late).2.withCounters counters) :=
  ⟨_, commit_eq_of_passes ready passes inTime⟩

/-- The next version is the last one with what the batch contributes spliced in. -/
theorem root_publish (inTime : engine.passedDeadline? late = none) :
    (engine.publish (engine.proposal batch) late).2.root =
      engine.root.splice (engine.publisher.issued + 1) (engine.contribution batch) := by
  obtain ⟨publisher, published, -⟩ := publish_of_free ready.rests (engine.proposal batch)
    passes.hasNumber (ready.free passes.hasNumber) inTime
  rw [published]
  exact Snapshot.next_obsoletesOf .refl ready.sound.ascending (engine.contribution batch) _

/-- No segment has to be looked through again, and what is counted as hidden is what was visible and
is touched. -/
theorem counters_publish (inTime : engine.passedDeadline? late = none) :
    (engine.publish (engine.proposal batch) late).2.publisher.counters =
      Publisher.record engine.publisher.counters (engine.root.version + 1)
        ⟨0, engine.root.visibleOf (engine.contribution batch).touched⟩ := by
  obtain ⟨publisher, published, -, -, counted⟩ := publish_of_free ready.rests
    (engine.proposal batch) passes.hasNumber (ready.free passes.hasNumber) inTime
  have reported : (engine.proposal batch).report engine.root.segments =
      ⟨0, engine.root.visibleOf (engine.contribution batch).touched⟩ := by
    have report := Snapshot.report_obsoletesOf .refl ready.sound.ascending
      (engine.contribution batch)
    rw [Snapshot.newerThan_self, ite_self] at report
    exact report
  rw [published, ← reported]
  exact counted

end Passes

theorem passedDeadline?_eq_none :
    engine.passedDeadline? late = none ↔ (late = true → engine.config.deadline = none) := by
  unfold passedDeadline?
  split
  · next isLate => exact ⟨fun absent _ => absent, fun absent => absent isLate⟩
  · next inTime => exact iff_of_true rfl fun isLate => absurd isLate inTime

/-- A batch that the pool takes and that is not rejected is published if a segment can hold its
documents, there is a number left for it, and no deadline passes. -/
theorem exists_receipt_iff (ready : engine.Ready) (valid : batch.validate = .ok ())
    (served : engine.Serves batch) (kept : ¬engine.Rejects batch) :
    (∃ receipt, (engine.commit batch late).1 = .ok receipt) ↔
      batch.Fits engine.config ∧ engine.publisher.issued + 1 < UInt64.size ∧
        (late = true → engine.config.deadline = none) := by
  rw [← Publisher.hasNumber_iff, ← passedDeadline?_eq_none]
  constructor
  · rintro ⟨receipt, done⟩
    by_cases fits : batch.Fits engine.config
    · cases hasNumber : engine.publisher.hasNumber with
      | false =>
        rw [commit_of_usedUp ready valid served kept fits hasNumber] at done
        cases done
      | true =>
        cases passed : engine.passedDeadline? late with
        | some deadline =>
          rw [commit_of_overdue ready valid served kept fits hasNumber passed] at done
          cases done
        | none => exact ⟨fits, rfl, rfl⟩
    · rw [commit_of_tooMany ready valid served kept fits] at done
      cases done
  · rintro ⟨fits, hasNumber, inTime⟩
    obtain ⟨counters, done⟩ :=
      commit_of_passes ready ⟨ready.isOpen, valid, served, kept, fits, hasNumber⟩ inTime
    rw [done]
    exact ⟨_, rfl⟩

end Engine

end TextIndex
