import TextIndex.Proofs.Engine.Proposal
import TextIndex.Proofs.Publishing.AtRest

/-!
# Commits

With nothing else under way, a commit comes down to the proposal of its batch: if there is one, it
is introduced under the next segment number, unless there is no number left or a deadline passes,
and otherwise the index stays as it is.

* `Engine.Ready`: an open engine with nothing under way and a sound index.
* `Engine.publish_of_free`, `Engine.publish_of_usedUp`, `Engine.publish_of_overdue`: what an
  introduction comes to.
* `Engine.commit_of_ready`: what a commit comes to.
* `Engine.Ready.splice`: the engine is ready again afterwards.
-/

namespace TextIndex

open TextIndex.Time

/-- Count the documents of a batch that is not rejected. -/
def BatchCounters.addAnswers (counters : BatchCounters) (answers : List Answer) : BatchCounters :=
  (counters.addFailures (answers.filterMap Answer.failure?)).addTexts
    (answers.filterMap Answer.analyzed?)

/-- Segment numbers are words of 64 bits. -/
theorem Publisher.hasNumber_iff {publisher : Publisher} :
    publisher.hasNumber = true ↔ publisher.issued + 1 < UInt64.size :=
  decide_eq_true_iff

theorem Publisher.hasNumber_eq_false_iff {publisher : Publisher} :
    publisher.hasNumber = false ↔ UInt64.size ≤ publisher.issued + 1 := by
  rw [← Bool.not_eq_true, Publisher.hasNumber_iff, Nat.not_lt]

namespace Engine

def withCounters (engine : Engine) (counters : BatchCounters) : Engine :=
  { engine with counters }

/-- The engine is open, nothing is under way, and its index is sound. -/
structure Ready (engine : Engine) : Prop where
  isOpen : engine.closed = false
  numbered : engine.pool.Numbered
  rests : engine.publisher.AtRest
  sound : engine.root.Sound
  /-- All segment numbers were given out. -/
  issued : ∀ listed ∈ engine.root.segmentIds, listed ≤ engine.publisher.issued
  /-- Each version took a number. -/
  version : engine.root.version ≤ engine.publisher.issued

/-- An index was just opened, with a pool of its own or with one that others may have used
before. -/
inductive Opened (config : Config) (engine : Engine) : Prop
  | own (opened : openOwn config = .ok engine)
  | shared {pool : WorkerPool} (used : pool.Reachable)
      (opened : openShared config pool = .ok engine)

theorem Opened.eq {config : Config} {engine : Engine} (opened : Opened config engine) :
    ∃ pool : WorkerPool, pool.Reachable ∧ ∃ ownsPool, engine = { config, pool, ownsPool } := by
  cases opened with
  | own opened =>
    unfold openOwn at opened
    split at opened
    · cases opened
    · cases started : WorkerPool.start config.workers.toNat config.capacity.toNat with
      | error error =>
        rw [started] at opened
        cases opened
      | ok pool =>
        rw [started] at opened
        exact ⟨pool, .start started, true, (Except.ok.inj opened).symm⟩
  | shared used opened =>
    unfold openShared at opened
    split at opened
    · cases opened
    · split at opened
      · cases opened
      · exact ⟨_, used, false, (Except.ok.inj opened).symm⟩

theorem Opened.ready {config : Config} {engine : Engine} (opened : Opened config engine) :
    engine.Ready ∧ engine.root = .empty ∧ engine.config = config := by
  obtain ⟨pool, used, ownsPool, rfl⟩ := opened.eq
  exact ⟨⟨rfl, used.numbered, Publisher.atRest_empty, Snapshot.sound_empty,
    (fun _ member => nomatch member), Nat.le_refl _⟩, rfl, rfl⟩

theorem Opened.numbered {config : Config} {engine : Engine} (opened : engine.Opened config) :
    engine.pool.Numbered :=
  opened.ready.1.numbered

/-- The index of the standard configuration for one processor. -/
def standard : Engine where
  config := .standard 1
  pool := { workers := 1, capacity := 16 }
  ownsPool := true

theorem openOwn_standard : openOwn (.standard 1) = .ok standard := rfl

theorem Ready.clear {engine : Engine} (ready : engine.Ready) :
    engine.root.blocking? (engine.publisher.issued + 1) = none :=
  Snapshot.blocking?_eq_none_of_above fun listed member =>
    Nat.lt_succ_of_le (ready.issued listed member)

/-- As long as there are numbers left there are versions left, too. -/
theorem Ready.free {engine : Engine} (ready : engine.Ready)
    (hasNumber : engine.publisher.hasNumber = true) :
    engine.root.obstacle? (engine.publisher.issued + 1) = none := by
  have left := Publisher.hasNumber_iff.mp hasNumber
  exact Snapshot.obstacle?_eq_none.mpr
    ⟨Nat.lt_of_le_of_lt (Nat.succ_le_succ ready.version) left, ready.clear⟩

/-! ### Publishing -/

section Publish

variable {engine : Engine} (rests : engine.publisher.AtRest) {late : Bool}
  (introduction : Introduction)

include rests

/-- Without a number left nothing is submitted. -/
theorem publish_of_usedUp (usedUp : engine.publisher.hasNumber = false) :
    engine.publish introduction late = (.error (.index .numbersUsedUp), engine) := by
  unfold publish
  rw [rests.submit, usedUp]
  rfl

/-- What is submitted when no deadline passes is published as the next version. -/
theorem publish_of_free (hasNumber : engine.publisher.hasNumber = true)
    (free : engine.root.obstacle? (engine.publisher.issued + 1) = none)
    (inTime : engine.passedDeadline? late = none) :
    ∃ publisher : Publisher, engine.publish introduction late =
        (.ok (engine.root.version + 1, engine.publisher.issued + 1), { engine with
          root := engine.root.next (engine.publisher.issued + 1) introduction
          publisher }) ∧
      publisher.AtRest ∧ publisher.issued = engine.publisher.issued + 1 ∧
      publisher.counters = Publisher.record engine.publisher.counters (engine.root.version + 1)
        (introduction.report engine.root.segments) := by
  obtain ⟨after, settled, told, issued, rested, counted⟩ :=
    @Publisher.AtRest.settle_enqueue _ rests introduction _ free
  refine ⟨after, ?_, rested, issued, counted⟩
  unfold publish
  rw [rests.submit, if_pos hasNumber, inTime]
  simp only [settled, told]
  rfl

/-- What is submitted when a deadline passes is not published, but takes a number. -/
theorem publish_of_overdue (hasNumber : engine.publisher.hasNumber = true) {deadline : Duration}
    (overdue : engine.passedDeadline? late = some deadline) :
    ∃ publisher : Publisher, engine.publish introduction late =
        (.error (.timeout (.notIntroduced (engine.publisher.issued + 1) deadline)),
          { engine with publisher }) ∧
      publisher.AtRest ∧ publisher.issued = engine.publisher.issued + 1 := by
  obtain ⟨waiting, after, expired, settled, issued, rested⟩ :=
    rests.settle_expire introduction engine.root deadline
  refine ⟨after, ?_, rested, issued⟩
  unfold publish
  rw [rests.submit, if_pos hasNumber, overdue]
  simp only [expired, settled]
  rfl

end Publish

/-! ### The stages of a commit -/

section Stages

variable (engine : Engine) (batch : Batch)

/-- A stage gives an error and leaves the root as it is. It may have taken a number. -/
def Refuses (stage : Except IndexError Receipt × Engine) : Prop :=
  ∃ error publisher counters, stage = (.error error, { engine with publisher, counters }) ∧
    (engine.publisher.AtRest → publisher.AtRest) ∧
    engine.publisher.issued ≤ publisher.issued ∧ publisher.issued ≤ engine.publisher.issued + 1

/-- A stage makes what was introduced the next version. -/
def Publishes (introduction : Introduction) (stage : Except IndexError Receipt × Engine) : Prop :=
  ∃ failures counters publisher,
    stage = (.ok ⟨engine.root.version + 1, engine.publisher.issued + 1, failures⟩, { engine with
      root := engine.root.next (engine.publisher.issued + 1) introduction
      publisher
      counters }) ∧
    publisher.AtRest ∧ publisher.issued = engine.publisher.issued + 1

theorem refuses_withCounters (error : IndexError) (counters : BatchCounters) :
    engine.Refuses (.error error, engine.withCounters counters) :=
  ⟨error, engine.publisher, counters, rfl, id, Nat.le_refl _, Nat.le_succ _⟩

variable {engine batch} {answers : List Answer} {late : Bool}

theorem conclude_of_rejected
    (rejected : answers.filterMap Answer.failure? ≠ [] ∧ engine.config.policy = .reject) :
    engine.conclude batch answers late =
      (.error (.rejected (answers.filterMap Answer.failure?)), engine.withCounters
        (engine.counters.addFailures (answers.filterMap Answer.failure?))) := by
  unfold conclude
  exact if_pos rejected

section Kept

variable (kept : ¬(answers.filterMap Answer.failure? ≠ [] ∧ engine.config.policy = .reject))

include kept

/-- More documents than a segment can hold are counted with their texts, and then refused. -/
theorem conclude_of_tooMany
    (tooMany : Segment.capacity < (answers.filterMap Answer.analyzed?).length) :
    engine.conclude batch answers late =
      (.error (.argument (.tooManyDocuments (answers.filterMap Answer.analyzed?).length)),
        engine.withCounters (engine.counters.addAnswers answers)) := by
  unfold conclude
  dsimp only
  rw [if_neg kept, Segment.build, if_neg (Nat.not_le_of_lt tooMany)]
  rfl

theorem conclude_of_fits
    (fits : (answers.filterMap Answer.analyzed?).length ≤ Segment.capacity) :
    engine.conclude batch answers late =
      let published := (engine.withCounters (engine.counters.addAnswers answers)).publish
        (engine.introductionOf batch answers (.ofAnalyzed (answers.filterMap Answer.analyzed?)))
        late
      (published.1.map fun (version, segment) =>
        ⟨version, segment, answers.filterMap Answer.failure?⟩, published.2) := by
  unfold conclude
  dsimp only
  rw [if_neg kept, Segment.build, if_pos fits]
  rfl

end Kept

/-- What was analyzed is refused or introduced. -/
theorem conclude_of_ready (ready : engine.Ready) :
    engine.Refuses (engine.conclude batch answers late) ∨
      ¬(answers.filterMap Answer.failure? ≠ [] ∧ engine.config.policy = .reject) ∧
        engine.publisher.hasNumber = true ∧
        ∃ segment, Segment.build (answers.filterMap Answer.analyzed?) = .ok segment ∧
          engine.Publishes (engine.introductionOf batch answers segment)
            (engine.conclude batch answers late) := by
  by_cases rejected : answers.filterMap Answer.failure? ≠ [] ∧ engine.config.policy = .reject
  · rw [conclude_of_rejected rejected]
    exact .inl (engine.refuses_withCounters _ _)
  by_cases fits : (answers.filterMap Answer.analyzed?).length ≤ Segment.capacity
  · rw [conclude_of_fits rejected fits]
    let counted := engine.withCounters (engine.counters.addAnswers answers)
    let introduction :=
      engine.introductionOf batch answers (.ofAnalyzed (answers.filterMap Answer.analyzed?))
    cases hasNumber : engine.publisher.hasNumber with
    | false =>
      rw [@publish_of_usedUp counted ready.rests late introduction hasNumber]
      exact .inl (engine.refuses_withCounters _ _)
    | true =>
      cases passed : engine.passedDeadline? late with
      | some deadline =>
        obtain ⟨publisher, published, rested, issued⟩ :=
          @publish_of_overdue counted ready.rests late introduction hasNumber deadline passed
        rw [published]
        exact .inl ⟨_, publisher, _, rfl, fun _ => rested, issued ▸ Nat.le_succ _,
          Nat.le_of_eq issued⟩
      | none =>
        obtain ⟨publisher, published, rested, issued, -⟩ :=
          @publish_of_free counted ready.rests late introduction hasNumber (ready.free hasNumber)
            passed
        rw [published]
        exact .inr ⟨rejected, rfl, _, Segment.build_eq_ok.mpr ⟨fits, rfl⟩, _, _, publisher, rfl,
          rested, issued⟩
  · rw [conclude_of_tooMany rejected (Nat.lt_of_not_le fits)]
    exact .inl (engine.refuses_withCounters _ _)

theorem Refuses.commit (refused : engine.Refuses (engine.apply batch late)) :
    engine.Refuses (engine.commit batch late) := by
  obtain ⟨error, publisher, counters, same, rests, issued⟩ := refused
  unfold Engine.commit
  rw [same]
  exact ⟨_, _, _, rfl, rests, issued⟩

theorem Publishes.commit {introduction : Introduction}
    (published : engine.Publishes introduction (engine.apply batch late)) :
    engine.Publishes introduction (engine.commit batch late) := by
  obtain ⟨failures, counters, publisher, same, rests⟩ := published
  refine ⟨failures, counters, publisher, ?_, rests⟩
  unfold Engine.commit
  rw [same]

/-- The stages after the check, for a batch that is counted. -/
theorem apply_of_checked (isOpen : engine.checkOpen = .ok ()) (valid : batch.validate = .ok ()) :
    engine.apply batch late =
      match engine.pool.analyzeAll (engine.works batch) with
      | .error error => (.error error, { engine with counters := engine.counters.record batch })
      | .ok answers =>
        { engine with counters := engine.counters.record batch }.conclude batch answers late := by
  unfold apply
  rw [isOpen, valid]
  rfl

theorem Ready.checkOpen {engine : Engine} (ready : engine.Ready) :
    engine.checkOpen = .ok () := by
  unfold Engine.checkOpen
  rw [ready.isOpen, ready.rests.usable]
  rfl

/-- The engine stays ready when numbers are used up for nothing. -/
theorem Ready.recount {engine : Engine} (ready : engine.Ready) {publisher : Publisher}
    (rests : engine.publisher.AtRest → publisher.AtRest)
    (issued : engine.publisher.issued ≤ publisher.issued) (counters : BatchCounters) :
    Ready { engine with publisher, counters } where
  isOpen := ready.isOpen
  numbered := ready.numbered
  rests := rests ready.rests
  sound := ready.sound
  issued := fun listed member => Nat.le_trans (ready.issued listed member) issued
  version := Nat.le_trans ready.version issued

theorem Ready.withCounters {engine : Engine} (ready : engine.Ready) (counters : BatchCounters) :
    (engine.withCounters counters).Ready :=
  { ready with }

/-- **With nothing else under way, a commit is refused, or makes what its batch proposes the next
version.** -/
theorem commit_of_ready (ready : engine.Ready) :
    engine.Refuses (engine.commit batch late) ∨
      engine.publisher.hasNumber = true ∧ ∃ introduction,
        engine.proposal? engine.root batch = some introduction ∧
          engine.Publishes introduction (engine.commit batch late) := by
  have isOpen := ready.checkOpen
  let counted := engine.withCounters (engine.counters.record batch)
  cases valid : batch.validate with
  | error error =>
    refine .inl (Refuses.commit ?_)
    unfold apply
    rw [isOpen, valid]
    exact engine.refuses_withCounters error engine.counters
  | ok _ =>
    have applied := @apply_of_checked engine batch late isOpen valid
    cases done : engine.pool.analyzeAll (engine.works batch) with
    | error error =>
      rw [done] at applied
      refine .inl (Refuses.commit ?_)
      rw [applied]
      exact engine.refuses_withCounters error _
    | ok answers =>
      rw [done] at applied
      have stage := @conclude_of_ready counted batch answers late (ready.withCounters _)
      rw [show counted.conclude batch answers late = _ from applied.symm] at stage
      refine stage.imp Refuses.commit fun ⟨kept, hasNumber, segment, built, published⟩ =>
        ⟨hasNumber, _, ?_, Publishes.commit published⟩
      have kept : ¬(answers.filterMap Answer.failure? ≠ [] ∧ engine.config.policy = .reject) := kept
      unfold proposal?
      simp only [valid, done]
      rw [if_neg kept, built]
      rfl

end Stages

/-- What is introduced is a batch's contribution, with the documents to hide looked for in the
root. -/
theorem next_of_proposal? {engine : Engine} {batch : Batch} (ready : engine.Ready)
    {introduction : Introduction}
    (proposed : engine.proposal? engine.root batch = some introduction) :
    batch.validate = .ok () ∧ ∀ id,
      engine.root.next id introduction = engine.root.splice id (engine.contribution batch) := by
  obtain ⟨valid, rfl⟩ := proposal?_eq_some ready.numbered proposed
  exact ⟨valid, Snapshot.next_obsoletesOf .refl ready.sound.ascending _⟩

/-- The engine is ready again after a batch was introduced. -/
theorem Ready.splice {engine : Engine} (ready : engine.Ready) {introduction : Introduction}
    (proper : introduction.Proper) {publisher : Publisher} (rests : publisher.AtRest)
    (issued : publisher.issued = engine.publisher.issued + 1) (counters : BatchCounters) :
    Ready { engine with
      root := engine.root.splice (engine.publisher.issued + 1) introduction
      publisher
      counters } where
  isOpen := ready.isOpen
  numbered := ready.numbered
  rests := rests
  sound := ready.sound.splice ready.clear proper
  issued := by
    intro listed member
    show listed ≤ publisher.issued
    rw [issued]
    rcases Snapshot.mem_segmentIds_splice member with older | rfl
    · exact Nat.le_succ_of_le (ready.issued listed older)
    · exact Nat.le_refl _
  version := by
    show engine.root.version + 1 ≤ publisher.issued
    rw [issued]
    exact Nat.succ_le_succ ready.version

end Engine

end TextIndex
