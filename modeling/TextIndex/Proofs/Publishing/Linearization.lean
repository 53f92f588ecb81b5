import TextIndex.Proofs.Engine.AllOrNothing
import TextIndex.Proofs.Publishing.Verdicts

/-!
# Concurrent commits come one after the other

Writers look for the documents to hide whenever they like, in roots that may be long past when their
submissions are introduced, and submit in any order. All the same, each published snapshot is what
comes of introducing the submissions one by one, in the order of the mailbox, with the documents to
hide looked for in the snapshot just before. So it shows what the batches of these submissions come
to. Without deadlines and with nobody closing the index no submission is lost, so versions,
submissions and segment numbers are the same sequence.

* `Snapshot.replay`: submissions introduced one by one.
* `Service.Timely`: that an introduction was prepared from a batch, in a published version.
* `Exchange.Calm`: what every step preserves that waits without a deadline and closes nothing.
* `Exchange.ContainedFrom`: what it is for a batch to be contained in a version and in no earlier
  one.
* `Exchange.linearizable`: the order of the published snapshots.
-/

namespace TextIndex

open TextIndex.Time

namespace Snapshot

/-- Introduce a submission with the documents to hide looked for now. -/
def introduceFresh (snapshot : Snapshot) (request : Request) : Except IntroductionFault Snapshot :=
  (snapshot.introduce request.id (request.introduction.withObsoletes
    (snapshot.obsoletesOf request.introduction.touched))).map Prod.fst

/-- The snapshot of submissions that are introduced one by one into an index just opened. -/
def replay (requests : List Request) : Except IntroductionFault Snapshot :=
  requests.foldlM introduceFresh .empty

end Snapshot

namespace Service

/-- An introduction was prepared from a valid batch, with the documents to hide looked for in a
version that was published by then. -/
def Timely (service : Service) (engine : Engine) (batch : Batch) (introduction : Introduction)
    (latest : Nat) : Prop :=
  batch.validate = .ok () ∧ ∃ version ≤ latest,
    introduction = (engine.contribution batch).withObsoletes
      ((service.versionAt version).obsoletesOf (engine.contribution batch).touched)

variable {engine : Engine} {batch : Batch} {introduction : Introduction} {latest : Nat}

theorem Timely.mono {service next : Service} {bound : Nat}
    (timely : service.Timely engine batch introduction latest) (order : latest ≤ bound)
    (same : ∀ version ≤ latest, next.versionAt version = service.versionAt version) :
    next.Timely engine batch introduction bound := by
  obtain ⟨valid, version, published, prepared⟩ := timely
  exact ⟨valid, version, Nat.le_trans published order, (same version published).symm ▸ prepared⟩

namespace Consistent

variable {service : Service} (consistent : service.Consistent)

include consistent

theorem ascending_versionAt {version : Nat} (published : version ≤ service.published.length) :
    (service.versionAt version).Ascending :=
  (consistent.evolves (Nat.zero_le version) published).ascending Snapshot.ascending_empty

/-- What was prepared in time makes the same snapshot as what is prepared now. -/
theorem introduce_timely {id : Nat} (timely : service.Timely engine batch introduction latest)
    (published : latest ≤ service.published.length)
    (free : (service.versionAt latest).obstacle? id = none) :
    (service.versionAt latest).next id introduction =
        (service.versionAt latest).splice id (engine.contribution batch) ∧
      (service.versionAt latest).introduceFresh ⟨id, introduction⟩ =
        .ok ((service.versionAt latest).splice id (engine.contribution batch)) := by
  obtain ⟨-, version, early, rfl⟩ := timely
  have within := Nat.le_trans early published
  constructor
  · exact Snapshot.next_obsoletesOf (consistent.evolves early published)
      (consistent.ascending_versionAt within) (engine.contribution batch) id
  · have fresh := Snapshot.introduce_obsoletesOf .refl (consistent.ascending_versionAt published)
      (engine.contribution batch) free
    exact congrArg (Except.map Prod.fst) fresh

/-- A published segment that has documents is listed in its version and the later ones. -/
theorem listed_iff {place : Nat} {publication : Publication}
    (held : service.published[place]? = some publication)
    (documents : publication.request.introduction.segment.docCount ≠ 0) {version : Nat}
    (published : version ≤ service.published.length) :
    publication.request.id ∈ (service.versionAt version).segmentIds ↔ place < version := by
  constructor
  · intro listed
    obtain ⟨other, isOther, same⟩ := consistent.listed_versionAt published _ listed
    obtain ⟨otherPlace, otherHeld⟩ := List.mem_iff_getElem?.mp isOther
    rw [List.getElem?_take] at otherHeld
    split at otherHeld
    · next inside => rwa [consistent.place_unique held otherHeld same.symm]
    · cases otherHeld
  · intro later
    obtain ⟨report, introduced⟩ := consistent.chain place publication held
    obtain ⟨-, made, -⟩ := Snapshot.introduce_eq_ok introduced
    have own : (publication.request.id, publication.request.introduction.segment) ∈
        (service.versionAt (place + 1)).contents := by
      rw [versionAt_succ held, made, Snapshot.contents_next]
      refine List.mem_append_right _ ?_
      unfold Introduction.added
      rw [if_neg documents]
      exact List.mem_singleton_self _
    rw [Snapshot.segmentIds_eq]
    exact List.mem_map_of_mem ((consistent.evolves later published).contents_extend.subset own)

/-- With nothing to disturb it, the publisher sheds nothing and refuses nothing. -/
theorem serve_undisturbed (undisturbed : ¬service.publisher.Disturbed)
    (granted : ∀ (id : Nat) error, service.publisher.answers[id]? ≠ some (.error error)) :
    ¬service.serve.publisher.Disturbed ∧
      (∀ (id : Nat) error, service.serve.publisher.answers[id]? ≠ some (.error error)) ∧
      service.serve.line = service.line ∧
      service.serve.publisher.issued = service.publisher.issued := by
  refine consistent.serve_cases (fun next => ¬next.publisher.Disturbed ∧
    (∀ (id : Nat) error, next.publisher.answers[id]? ≠ some (.error error)) ∧
    next.line = service.line ∧ next.publisher.issued = service.publisher.issued)
    ⟨undisturbed, granted, rfl, rfl⟩ ?_ ?_ ?_ ?_
  · intro told verdict owes
    obtain ⟨version, rfl, -⟩ := consistent.owes told verdict owes
    refine ⟨undisturbed, fun id error answered => ?_, rfl, rfl⟩
    exact granted id error (getElem?_of_insert_number answered (by simp))
  · intro request rest idle first waited
    refine ⟨?_, granted, line_of_claim idle first _, rfl⟩
    rintro (gone | closing | ⟨id, abandoned⟩)
    · exact undisturbed (.inl gone)
    · refine undisturbed (.inr (.inl ?_))
      rw [first]
      exact List.mem_cons_of_mem _ closing
    · exact undisturbed (.inr (.inr ⟨id, getElem?_of_insert_number abandoned (by decide)⟩))
  · exact fun request next report _ _ claimed _ =>
      ⟨undisturbed, granted, line_of_introduce next claimed _ _, rfl⟩
  · exact fun shed after _ _ disturbed => absurd disturbed undisturbed

end Consistent

end Service

/-- A step that sets no deadline and closes nothing. -/
def Action.Patient : Action → Prop
  | .submit _ (some _) | .beginClose => False
  | _ => True

/-- A writer that does not wait with a deadline. -/
def Writer.Patient : Writer → Prop
  | waiting _ (some _) | overdue _ _ => False
  | _ => True

namespace Exchange

/-- Nothing is lost: the publisher serves, every submission stands in the line, under the next
number, and each was prepared from its batch in time. -/
structure Calm (engine : Engine) (exchange : Exchange) : Prop where
  truthful : exchange.Truthful
  undisturbed : ¬exchange.service.publisher.Disturbed
  granted : ∀ (id : Nat) error, exchange.service.publisher.answers[id]? ≠ some (.error error)
  whole : exchange.service.line = exchange.submitted.map (·.request)
  numbered : exchange.submitted.map (·.request.id) = List.range' 1 exchange.submitted.length
  issued : exchange.service.publisher.issued = exchange.submitted.length
  patient : ∀ writer, (exchange.writers writer).Patient
  prepared : ∀ writer batch introduction, exchange.writers writer = .prepared batch introduction →
    exchange.service.Timely engine batch introduction exchange.service.published.length
  timely : ∀ place submission, exchange.submitted[place]? = some submission →
    exchange.service.Timely engine submission.batch submission.request.introduction
      (min place exchange.service.published.length)

theorem calm_start (engine : Engine) : Calm engine {} where
  truthful := truthful_start
  undisturbed := by
    rintro (gone | closing | ⟨id, abandoned⟩)
    · exact gone rfl
    · cases closing
    · cases Std.ExtTreeMap.getElem?_empty.symm.trans abandoned
  granted := fun _ _ answered => by cases Std.ExtTreeMap.getElem?_empty.symm.trans answered
  whole := rfl
  numbered := rfl
  issued := rfl
  patient := fun _ => trivial
  prepared := fun _ _ _ prepared => nomatch prepared
  timely := fun _ _ held => nomatch held

namespace Calm

variable {engine : Engine} {exchange : Exchange} (calm : exchange.Calm engine)

include calm

/-- A writer comes to another point, without a deadline. -/
theorem move {writer : Nat} {point : Writer} (truthful : (exchange.move writer point).Truthful)
    (patient : point.Patient)
    (prepared : ∀ batch introduction, point = .prepared batch introduction →
      exchange.service.Timely engine batch introduction exchange.service.published.length) :
    (exchange.move writer point).Calm engine := by
  refine { calm with
    truthful := truthful
    patient := fun other => ?patient
    prepared := fun other batch introduction held => ?prepared }
  case patient =>
    rw [writers_move]
    split
    · exact patient
    · exact calm.patient other
  case prepared =>
    rw [writers_move] at held
    split at held
    · exact prepared batch introduction held
    · exact calm.prepared other batch introduction held

theorem prepare (numbered : engine.pool.Numbered) (writer : Nat) (batch : Batch) :
    (exchange.prepare engine writer batch).Calm engine := by
  have truthful := (calm.truthful.prepare engine writer batch).truthful
  unfold Exchange.prepare at truthful ⊢
  split
  · next introduction idle proposed =>
    rw [idle, proposed] at truthful
    refine calm.move truthful trivial fun other another same => ?_
    obtain ⟨rfl, rfl⟩ := Writer.prepared.inj same
    obtain ⟨valid, rfl⟩ := Engine.proposal?_eq_some numbered proposed
    refine ⟨valid, exchange.service.published.length, Nat.le_refl _, ?_⟩
    rw [← calm.truthful.consistent.root]
  · exact calm

/-- What is published was submitted. -/
theorem length_published_le : exchange.service.published.length ≤ exchange.submitted.length := by
  have whole := congrArg List.length calm.whole
  unfold Service.line at whole
  rw [List.length_append, List.length_append, List.length_map, List.length_map] at whole
  omega

/-- A submission takes the next place in the line. -/
theorem enqueue (hasNumber : exchange.service.publisher.hasNumber = true) (writer : Nat)
    {batch : Batch} {introduction : Introduction}
    (timely :
      exchange.service.Timely engine batch introduction exchange.service.published.length) :
    (exchange.enqueue writer batch introduction).Calm engine := by
  let submission : Submission :=
    ⟨writer, batch, exchange.service.publisher.nextRequest introduction⟩
  have number : submission.request.id = 1 + exchange.submitted.length := by
    rw [Nat.add_comm, ← calm.issued]
    rfl
  refine {
    truthful := (calm.truthful.enqueue hasNumber writer batch introduction).truthful
    undisturbed := ?undisturbed
    granted := calm.granted
    whole := ?whole
    numbered := ?numbered
    issued := ?issued
    patient := calm.patient
    prepared := fun other otherBatch another held =>
      (calm.prepared other otherBatch another held).mono (Nat.le_refl _) fun _ _ => rfl
    timely := ?timely }
  case undisturbed =>
    rintro (gone | closing | ⟨id, abandoned⟩)
    · exact calm.undisturbed (.inl gone)
    · refine calm.undisturbed (.inr (.inl ?_))
      rcases List.mem_append.mp closing with earlier | own
      · exact earlier
      · cases List.mem_singleton.mp own
    · exact calm.undisturbed (.inr (.inr ⟨id, getElem?_of_insert_number abandoned (by decide)⟩))
  case whole =>
    show _ = (exchange.submitted ++ [submission]).map _
    rw [List.map_append, ← calm.whole]
    exact exchange.service.line_of_enqueue introduction
  case numbered =>
    show (exchange.submitted ++ [submission]).map _ =
      List.range' 1 (exchange.submitted ++ [submission]).length
    rw [List.map_append, calm.numbered, List.length_append, List.length_singleton,
      List.range'_1_concat, ← number]
    rfl
  case issued =>
    show exchange.service.publisher.issued + 1 = (exchange.submitted ++ [submission]).length
    rw [calm.issued, List.length_append, List.length_singleton]
  case timely =>
    intro place other held
    rcases held_of_concat held with ⟨-, heldBefore⟩ | ⟨rfl, rfl⟩
    · exact (calm.timely place other heldBefore).mono (Nat.le_refl _) fun _ _ => rfl
    · exact timely.mono
        (Nat.le_min.mpr ⟨calm.length_published_le, Nat.le_refl _⟩) fun _ _ => rfl

theorem submit (writer : Nat) : (exchange.submit writer none).Calm engine := by
  cases prepared : exchange.writers writer with
  | prepared batch introduction =>
    have here : ¬exchange.service.publisher.isGone := by
      have serving : exchange.service.publisher.phase = .serving := by
        by_contra gone
        exact calm.undisturbed (.inl gone)
      unfold Publisher.isGone
      rw [serving]
      decide
    have truthful := (calm.truthful.submit writer none).truthful
    rw [submit_of_prepared calm.truthful.consistent.usable prepared] at truthful ⊢
    by_cases usedUp : !exchange.service.publisher.hasNumber
    · rw [if_pos usedUp] at truthful ⊢
      exact calm.move truthful trivial fun _ _ same => by cases same
    · rw [if_neg usedUp, if_neg here] at truthful ⊢
      rw [Bool.not_eq_true, Bool.not_eq_false'] at usedUp
      have queued := calm.enqueue usedUp writer (calm.prepared writer batch introduction prepared)
      exact queued.move truthful trivial fun _ _ same => by cases same
  | idle | waiting id other | overdue id other =>
    unfold Exchange.submit
    rw [prepared]
    exact calm

theorem collect (writer : Nat) : (exchange.collect writer).Calm engine := by
  have truthful := (calm.truthful.collect writer).truthful
  cases waits : exchange.writers writer with
  | waiting id deadline =>
    unfold Exchange.collect at truthful ⊢
    rw [waits] at truthful ⊢
    dsimp only at truthful ⊢
    cases answered : exchange.service.publisher.answers[id]? with
    | none => exact calm
    | some verdict =>
      rw [answered] at truthful
      have idle : exchange.Extends (exchange.move writer .idle) :=
        calm.truthful.move fun _ waits => nomatch waits
      have moved := calm.move idle.truthful trivial fun _ _ same => nomatch same
      exact { moved with truthful := truthful }
  | idle | prepared batch introduction | overdue id deadline =>
    unfold Exchange.collect
    rw [waits]
    exact calm

/-- No deadline can pass. -/
theorem expire (writer : Nat) : exchange.expire writer = exchange := by
  have patient := calm.patient writer
  unfold Exchange.expire
  split
  · next id deadline waits =>
    rw [waits] at patient
    exact patient.elim
  · rfl

theorem abandon (writer : Nat) : exchange.abandon writer = exchange := by
  have patient := calm.patient writer
  unfold Exchange.abandon
  split
  · next id deadline waits =>
    rw [waits] at patient
    exact patient.elim
  · rfl

/-- **A step of the publisher introduces nothing out of turn.** -/
theorem serve : Calm engine { exchange with service := exchange.service.serve } := by
  have consistent := calm.truthful.consistent
  have keeps := consistent.keeps_serve
  obtain ⟨undisturbed, granted, line, issued⟩ :=
    consistent.serve_undisturbed calm.undisturbed calm.granted
  have later : ∀ {version}, version ≤ exchange.service.published.length →
      exchange.service.serve.versionAt version = exchange.service.versionAt version :=
    Service.versionAt_of_isPrefix keeps.published
  have grown := keeps.published.length_le
  have extended :=
    calm.truthful.withService consistent.serve keeps consistent.line_serve.subset
  refine { calm with
    truthful := extended.truthful
    undisturbed := undisturbed
    granted := granted
    whole := line.trans calm.whole
    issued := issued.trans calm.issued
    prepared := fun writer batch introduction prepared =>
      (calm.prepared writer batch introduction prepared).mono grown fun _ => later
    timely := fun place submission held => ?_ }
  have before := calm.timely place submission held
  refine before.mono (Nat.le_min.mpr ⟨Nat.min_le_left _ _, ?_⟩) fun version early => ?_
  · exact Nat.le_trans (Nat.min_le_right _ _) grown
  · exact later (Nat.le_trans early (Nat.min_le_right _ _))

/-- Every step that sets no deadline and closes nothing keeps an exchange calm. -/
theorem step (numbered : engine.pool.Numbered) {action : Action}
    (patient : action.Patient) : (exchange.step engine action).Calm engine := by
  cases action with
  | prepare writer batch => exact calm.prepare numbered writer batch
  | submit writer deadline =>
    cases deadline with
    | none => exact calm.submit writer
    | some deadline => exact patient.elim
  | collect writer => exact calm.collect writer
  | expire writer =>
    show (exchange.expire writer).Calm engine
    rw [calm.expire]
    exact calm
  | abandon writer =>
    show (exchange.abandon writer).Calm engine
    rw [calm.abandon]
    exact calm
  | beginClose => exact patient.elim
  | serve => exact calm.serve

theorem run (numbered : engine.pool.Numbered) {schedule : List Action}
    (patient : ∀ action ∈ schedule, action.Patient) :
    (exchange.run engine schedule).Calm engine := by
  induction schedule generalizing exchange with
  | nil => exact calm
  | cons action rest ih =>
    rw [List.forall_mem_cons] at patient
    exact ih (calm.step numbered patient.1) patient.2

/-! ### The order -/

/-- What is published is what was submitted, in the same order. -/
theorem request_at {place : Nat} {publication : Publication}
    (held : exchange.service.published[place]? = some publication) :
    (exchange.submitted[place]?).map (·.request) = some publication.request := by
  rw [← List.getElem?_map, ← calm.whole]
  unfold Service.line
  rw [List.append_assoc, List.getElem?_append_left, List.getElem?_map, held, Option.map_some]
  rw [List.length_map]
  exact (List.getElem?_eq_some_iff.mp held).1

/-- Submissions are numbered in the order in which they were put into the mailbox. -/
theorem id_at {place : Nat} {submission : Submission}
    (held : exchange.submitted[place]? = some submission) : submission.request.id = place + 1 := by
  have inside : place < exchange.submitted.length := (List.getElem?_eq_some_iff.mp held).1
  have number : (exchange.submitted.map (·.request.id))[place]? = some submission.request.id := by
    rw [List.getElem?_map, held, Option.map_some]
  rw [calm.numbered, List.getElem?_range' inside, Nat.one_mul, Nat.add_comm] at number
  exact (Option.some.inj number).symm

/-- Each submission is made once, so it is among the first ones from its own place on. -/
theorem mem_take_iff {place : Nat} {submission : Submission}
    (isAt : exchange.submitted[place]? = some submission) (count : Nat) :
    submission ∈ exchange.submitted.take count ↔ place + 1 ≤ count := by
  constructor
  · intro taken
    obtain ⟨other, isTaken⟩ := List.mem_iff_getElem?.mp taken
    rw [List.getElem?_take] at isTaken
    split at isTaken
    · next early =>
      have numbers := (calm.id_at isTaken).symm.trans (calm.id_at isAt)
      omega
    · cases isTaken
  · intro order
    refine List.mem_iff_getElem?.mpr ⟨place, ?_⟩
    rw [List.getElem?_take, if_pos (Nat.lt_of_succ_le order), isAt]

/-- A published submission was introduced as if it had been prepared from its batch just then. -/
theorem introduced_at {place : Nat} {publication : Publication}
    (held : exchange.service.published[place]? = some publication) :
    ∃ submission, exchange.submitted[place]? = some submission ∧
      submission.request = publication.request ∧ submission.batch.validate = .ok () ∧
      (exchange.service.versionAt place).blocking? publication.request.id = none ∧
      publication.snapshot = (exchange.service.versionAt place).splice publication.request.id
        (engine.contribution submission.batch) ∧
      (exchange.service.versionAt place).introduceFresh publication.request =
        .ok publication.snapshot := by
  have consistent := calm.truthful.consistent
  have inside : place < exchange.service.published.length := (List.getElem?_eq_some_iff.mp held).1
  obtain ⟨submission, isSubmission, same⟩ := Option.map_eq_some_iff.mp (calm.request_at held)
  -- Its place in the line bounds the version in which it was prepared.
  have timely := calm.timely place submission isSubmission
  rw [Nat.min_eq_left (Nat.le_of_lt inside), same] at timely
  obtain ⟨report, introduced⟩ := consistent.chain place publication held
  obtain ⟨free, made, -⟩ := Snapshot.introduce_eq_ok introduced
  obtain ⟨spliced, fresh⟩ := consistent.introduce_timely timely (Nat.le_of_lt inside) free
  rw [made, spliced]
  exact ⟨submission, isSubmission, same, timely.1, (Snapshot.obstacle?_eq_none.mp free).2, rfl,
    fresh⟩

/-- Each version is what comes of the submissions up to it, one by one. -/
theorem replay_eq {version : Nat} (published : version ≤ exchange.service.published.length) :
    Snapshot.replay ((exchange.submitted.take version).map (·.request)) =
      .ok (exchange.service.versionAt version) := by
  induction version with
  | zero => rfl
  | succ place ih =>
    have held := List.getElem?_eq_getElem published
    obtain ⟨submission, isSubmission, same, -, -, -, fresh⟩ := calm.introduced_at held
    unfold Snapshot.replay at ih ⊢
    rw [List.take_add_one, isSubmission, Option.toList_some, List.map_append, List.foldlM_append,
      ih (Nat.le_of_succ_le published), List.map_singleton, same, Service.versionAt_succ held]
    show [_].foldlM Snapshot.introduceFresh _ = _
    rw [List.foldlM_cons, fresh]
    rfl

/-- Each version shows what the batches of the submissions up to it come to. -/
theorem represents {version : Nat} (published : version ≤ exchange.service.published.length) :
    (exchange.service.versionAt version).Sound ∧ (exchange.service.versionAt version).Represents
      (.after engine.config ((exchange.submitted.take version).map (·.batch))) := by
  induction version with
  | zero => exact ⟨Snapshot.sound_empty, Snapshot.represents_empty⟩
  | succ place ih =>
    have held := List.getElem?_eq_getElem published
    obtain ⟨sound, represents⟩ := ih (Nat.le_of_succ_le published)
    obtain ⟨submission, isSubmission, -, valid, clear, spliced, -⟩ := calm.introduced_at held
    rw [Service.versionAt_succ held, spliced, List.take_add_one, isSubmission, Option.toList_some,
      List.map_append, List.map_singleton, Catalog.after_append]
    exact ⟨sound.splice clear (Engine.proper_contribution valid),
      represents.commit sound clear valid⟩

theorem not_lost (id : Nat) : ¬exchange.service.Lost id := by
  rintro (abandoned | ⟨error, answered⟩)
  · exact calm.undisturbed (.inr (.inr ⟨id, abandoned⟩))
  · exact calm.granted id error answered

end Calm

/-- A batch is contained in a version and in no earlier one: all that it does, and nothing else, is
done from the version before to that version. The versions made from it are that one and the later
ones, and so are the versions that list its segment, if it has documents. -/
structure ContainedFrom (exchange : Exchange) (config : Config) (submission : Submission)
    (version : Nat) : Prop where
  done : submission.batch.DoneIn config (exchange.service.versionAt (version - 1))
    (exchange.service.versionAt version)
  made : ∀ later ≤ exchange.service.root.version,
    submission ∈ exchange.submitted.take later ↔ version ≤ later
  listed : submission.request.introduction.segment.docCount ≠ 0 →
    ∀ later ≤ exchange.service.root.version,
      submission.request.id ∈ (exchange.service.versionAt later).segmentIds ↔ version ≤ later

/-- What a writer was told is true from the version that it was told. -/
theorem Calm.contained_of_told {engine : Engine} {exchange : Exchange}
    (calm : exchange.Calm engine) {telling : Telling} (member : telling ∈ exchange.told) :
    ∃ version submission, telling.verdict = .ok version ∧
      version ≤ exchange.service.root.version ∧ submission ∈ exchange.submitted ∧
      submission.writer = telling.writer ∧ submission.request.id = telling.id ∧
      exchange.ContainedFrom engine.config submission version := by
  have truthful := calm.truthful
  have consistent := truthful.consistent
  cases told : telling.verdict with
  | error error => exact absurd (truthful.lost telling member error told) (calm.not_lost _)
  | ok version =>
    obtain ⟨place, publication, rfl, held, same⟩ := truthful.made telling member version told
    obtain ⟨submission, isSubmission, own, sameId⟩ := truthful.told telling member
    have inside : place < exchange.service.published.length := (List.getElem?_eq_some_iff.mp held).1
    have inLine : publication.request ∈ exchange.service.line := Service.request_mem_line held
    have sameRequest := truthful.request_eq isSubmission inLine (same.trans sameId.symm)
    obtain ⟨index, isAt⟩ := List.mem_iff_getElem?.mp isSubmission
    obtain ⟨other, otherAt, otherSame, valid, clear, spliced, -⟩ := calm.introduced_at held
    have samePlace : index = place := by
      have numbers := calm.id_at isAt
      rw [← sameRequest, ← otherSame, calm.id_at otherAt] at numbers
      omega
    subst samePlace
    obtain rfl := Option.some.inj (otherAt.symm.trans isAt)
    refine ⟨index + 1, other, rfl, ?_, isSubmission, own, sameId, ?_,
      fun later _ => calm.mem_take_iff isAt later, ?_⟩
    · rw [consistent.version_root]
      exact inside
    · rw [Service.versionAt_succ held, spliced]
      exact Engine.doneIn_splice (calm.represents (Nat.le_of_lt inside)).1 clear valid
    · intro documents later published
      rw [consistent.version_root] at published
      rw [← sameRequest] at documents ⊢
      exact consistent.listed_iff held documents published

/-- **Concurrent commits come one after the other.** Let any number of writers, of which none has a
deadline, and the publisher take their steps in any order, with nobody closing the index. Each
published snapshot is what comes of the submissions up to it, one by one in the order of the
mailbox, with the documents to hide looked for just before each. It shows what their batches come
to, and every external id once at most. The published versions are one, two, three and so on; what
is published is what was submitted, in the same order, and the segment numbers are in that order,
too. No introduction is ever out of order. Every writer that is told something is told a version
that the root has reached by then, and its batch is contained in that version and in no earlier
one. -/
theorem linearizable {config : Config} {engine : Engine} (opened : engine.Opened config)
    {schedule : List Action} (patient : ∀ action ∈ schedule, action.Patient) :
    let exchange := run engine {} schedule
    let service := exchange.service
    (∀ place publication, service.published[place]? = some publication →
      Snapshot.replay ((exchange.submitted.take (place + 1)).map (·.request)) =
          .ok publication.snapshot ∧
        publication.snapshot.Represents
          (.after config ((exchange.submitted.take (place + 1)).map (·.batch))) ∧
        publication.snapshot.visibleIds.Nodup ∧
        ∀ key, (publication.snapshot.locations key).length ≤ 1) ∧
      service.published.map (·.snapshot.version) = List.range' 1 service.published.length ∧
      service.published.map (·.request) =
        (exchange.submitted.take service.published.length).map (·.request) ∧
      exchange.submitted.map (·.request.id) = List.range' 1 exchange.submitted.length ∧
      service.publisher.failure = none ∧
      (∀ request, service.publisher.inFlight = some request →
        ∃ introduced, service.root.introduce request.id request.introduction = .ok introduced) ∧
      ∀ telling ∈ exchange.told, ∃ version submission, telling.verdict = .ok version ∧
        version ≤ service.root.version ∧ submission ∈ exchange.submitted ∧
        submission.writer = telling.writer ∧ submission.request.id = telling.id ∧
        exchange.ContainedFrom config submission version := by
  intro exchange service
  have calm : exchange.Calm engine := (calm_start engine).run opened.numbered patient
  have consistent : service.Consistent := calm.truthful.consistent
  obtain rfl := opened.ready.2.2
  refine ⟨?_, ?_, ?_, calm.numbered, consistent.usable, ?_, fun telling member =>
    calm.contained_of_told member⟩
  · intro place publication held
    have published : place + 1 ≤ service.published.length := (List.getElem?_eq_some_iff.mp held).1
    have replayed := calm.replay_eq published
    obtain ⟨sound, represents⟩ := calm.represents published
    rw [Service.versionAt_succ held] at replayed sound represents
    have unique (key : String) : (publication.snapshot.locations key).length ≤ 1 := by
      rw [represents.placed]
      split
      · exact Nat.le_refl 1
      · exact Nat.zero_le 1
    exact ⟨replayed, represents, Snapshot.nodup_visibleIds sound unique, unique⟩
  · refine List.ext_getElem (by simp) fun place inside _ => ?_
    rw [List.length_map] at inside
    rw [List.getElem_map, List.getElem_range', Nat.one_mul, Nat.add_comm]
    exact consistent.version_published (List.getElem?_eq_getElem inside)
  · rw [List.map_take, ← calm.whole]
    unfold Service.line
    rw [List.append_assoc, List.take_left' (List.length_map _)]
  · intro request claimed
    rw [Snapshot.introduce_of_free _ (consistent.clear claimed)]
    exact ⟨_, rfl⟩

/-- Three writers prepare their batches in an empty index. The first puts a document and sets
metadata, the second removes both, and the third puts the document again and sets other metadata.
The third submits before the second. -/
def staleWriters : List Action :=
  let first := (Batch.empty.put {} "a").2.setMetadata [1] [2]
  let second := (Batch.empty.remove "a").removeMetadata [1]
  let third := (Batch.empty.put {} "a").2.setMetadata [3] [4]
  [.prepare 0 first, .prepare 1 second, .prepare 2 third, .submit 0 none, .submit 2 none,
    .submit 1 none] ++ List.replicate 9 .serve ++ [.collect 0, .collect 1, .collect 2]

theorem linearizable_staleWriters :
    let exchange := run .standard {} staleWriters
    (∀ action ∈ staleWriters, action.Patient) ∧
      exchange.told.map (fun telling => (telling.writer, telling.verdict.toOption)) =
        [(0, some 1), (1, some 3), (2, some 2)] ∧
      exchange.service.published.map (·.snapshot.visibleIds) = [["a"], ["a"], []] ∧
      exchange.service.published.map (fun publication =>
        [[1], [3]].map publication.snapshot.metadata?) =
          [[some [2], none], [some [2], some [4]], [none, some [4]]] ∧
      ∀ telling ∈ exchange.told, ∃ version submission, telling.verdict = .ok version ∧
        submission.writer = telling.writer ∧
        exchange.ContainedFrom (.standard 1) submission version := by
  intro exchange
  have patient : ∀ action ∈ staleWriters, action.Patient := by
    simp [staleWriters, Action.Patient]
  obtain ⟨-, -, -, -, -, -, contained⟩ := linearizable (.own Engine.openOwn_standard) patient
  refine ⟨patient, by decide +kernel, by decide +kernel, by decide +kernel,
    fun telling member => ?_⟩
  obtain ⟨version, submission, told, -, -, own, -, containedFrom⟩ := contained telling member
  exact ⟨version, submission, told, own, containedFrom⟩

end Exchange

end TextIndex
