import TextIndex.Proofs.Engine.Commit
import TextIndex.Proofs.Publishing.Exchange

/-!
# What writers are told

A submission is published if and only if its writer is told so. The publisher claims a submission
before it introduces it, and a writer gives its submission up only as long as it is not claimed, so
of the two at most one succeeds. Refusals are not preceded by a claim, but what is refused has left
the line for good.

* `Service.Lost`: that a submission will never be published.
* `Service.Keeps`: that what was decided stays decided.
* `Exchange.Truthful`: what every step preserves.
* `Exchange.told_iff_published`: what writers are told and what is published, after any schedule.
-/

namespace TextIndex

open TextIndex.Time

namespace Service

/-- A submission was given up or refused. -/
def Lost (service : Service) (id : Nat) : Prop :=
  service.publisher.claims[id]? = some .abandoned ∨
    ∃ error, service.publisher.answers[id]? = some (.error error)

/-- What was published stays published, what was lost stays lost, and no number is given out
twice. -/
structure Keeps (service next : Service) : Prop where
  issued : service.publisher.issued ≤ next.publisher.issued
  published : service.published <+: next.published
  lost : ∀ id, service.Lost id → next.Lost id

theorem Keeps.refl (service : Service) : service.Keeps service :=
  ⟨Nat.le_refl _, List.prefix_rfl, fun _ lost => lost⟩

theorem Keeps.trans {first second third : Service} (earlier : first.Keeps second)
    (later : second.Keeps third) : first.Keeps third :=
  ⟨Nat.le_trans earlier.issued later.issued, earlier.published.trans later.published,
    fun id lost => later.lost id (earlier.lost id lost)⟩

theorem keeps_issueNumber (service : Service) :
    service.Keeps { service with publisher := service.publisher.issueNumber } :=
  ⟨Nat.le_succ _, List.prefix_rfl, fun _ lost => lost⟩

/-- Shedding submissions loses some and finds none again. -/
theorem keeps_of_sheds {service : Service} {shed : List Request} {after : Publisher}
    (sheds : service.publisher.Sheds shed after) :
    service.Keeps { service with publisher := after } := by
  refine ⟨Nat.le_of_eq sheds.issued.symm, List.prefix_rfl, fun id lost => ?_⟩
  rcases lost with abandoned | ⟨error, answered⟩
  · exact .inl (sheds.claims ▸ abandoned)
  · rcases sheds.answers id with same | ⟨-, lost⟩
    · exact .inr ⟨error, same.trans answered⟩
    · exact .inr lost

/-- A submission was published as a version. -/
def Publishes (service : Service) (request : Request) (version : Nat) : Prop :=
  ∃ snapshot, snapshot.version = version ∧ 0 < version ∧
    service.published[version - 1]? = some ⟨request, snapshot⟩

/-- No published snapshot was made from a submission or lists its segment. -/
def Without (service : Service) (id : Nat) : Prop :=
  ∀ publication ∈ service.published,
    publication.request.id ≠ id ∧ id ∉ publication.snapshot.segmentIds

namespace Consistent

variable {service : Service} (consistent : service.Consistent)

include consistent

/-- What is lost is not published. -/
theorem ne_of_lost {id : Nat} (lost : service.Lost id) :
    ∀ publication ∈ service.published, publication.request.id ≠ id := by
  rintro publication member rfl
  obtain ⟨place, held⟩ := List.mem_iff_getElem?.mp member
  rcases lost with abandoned | ⟨error, answered⟩
  · have claimed := consistent.claimed _ (List.mem_append_left _ (List.mem_map_of_mem member))
    rw [abandoned] at claimed
    cases claimed
  · exact consistent.refused _ error answered _ (request_mem_line held) rfl

/-- What is lost is in no published snapshot. -/
theorem without_of_lost {id : Nat} (lost : service.Lost id) : service.Without id := by
  intro publication member
  refine ⟨consistent.ne_of_lost lost publication member, fun listed => ?_⟩
  obtain ⟨place, held⟩ := List.mem_iff_getElem?.mp member
  have inside : place < service.published.length := (List.getElem?_eq_some_iff.mp held).1
  rw [← versionAt_succ held] at listed
  obtain ⟨other, isOther, same⟩ := consistent.listed_versionAt inside id listed
  exact consistent.ne_of_lost lost other (List.mem_of_mem_take isOther) same

/-- A published snapshot has the number of its place. -/
theorem version_published {place : Nat} {publication : Publication}
    (held : service.published[place]? = some publication) :
    publication.snapshot.version = place + 1 := by
  rw [← versionAt_succ held]
  exact consistent.version_versionAt (List.getElem?_eq_some_iff.mp held).1

/-- The answer to a published submission is there, or is given next. -/
theorem answers_published {place : Nat} {publication : Publication}
    (held : service.published[place]? = some publication) :
    service.publisher.answers[publication.request.id]? = some (.ok (place + 1)) ∨
      service.serve.publisher.answers[publication.request.id]? = some (.ok (place + 1)) := by
  refine (consistent.decided place publication held).symm.imp_right fun owes => ?_
  have serving : service.publisher.phase = .serving := by
    by_contra gone
    rw [consistent.settled gone] at owes
    cases owes
  unfold Service.serve
  rw [Publisher.step?_of_owed serving _ owes]
  show (service.publisher.answer publication.request.id (.ok (place + 1))).answers[_]? = _
  rw [service.publisher.getElem?_answer, if_pos rfl]

/-- **A step of the publisher keeps what was decided.** -/
theorem keeps_serve : service.Keeps service.serve := by
  refine consistent.serve_cases service.Keeps (.refl service) ?_ ?_ ?_ ?_
  · intro told verdict owes
    refine ⟨Nat.le_refl _, List.prefix_rfl, fun id lost =>
      lost.imp_right fun ⟨error, answered⟩ => ⟨error, ?_⟩⟩
    -- What is answered now was published, so it is none of what is lost.
    obtain ⟨version, rfl, place, publication, rfl, held, rfl⟩ := consistent.owes told verdict owes
    have other := consistent.ne_of_lost (.inr ⟨error, answered⟩) publication
      (List.mem_of_getElem? held)
    rw [service.publisher.getElem?_answer, if_neg other]
    exact answered
  · intro request rest idle first waited
    refine ⟨Nat.le_refl _, List.prefix_rfl, fun id lost => lost.imp_left fun abandoned => ?_⟩
    have other : request.id ≠ id := by
      rintro rfl
      exact waited abandoned
    rw [getElem?_insert_number, if_neg other]
    exact abandoned
  · exact fun request next report _ _ _ _ =>
      ⟨Nat.le_refl _, List.prefix_append _ _, fun id lost => lost⟩
  · exact fun shed after sheds _ _ => keeps_of_sheds sheds

theorem keeps_enqueue (introduction : Introduction) :
    service.Keeps { service with publisher := service.publisher.enqueue introduction } := by
  refine ⟨Nat.le_succ _, List.prefix_rfl, fun id lost => lost.imp_left fun abandoned => ?_⟩
  have other : service.publisher.issued + 1 ≠ id := fun same =>
    Nat.not_succ_le_self _ (same ▸ consistent.knownClaims id _ abandoned)
  have claims := getElem?_insert_number service.publisher.claims (service.publisher.issued + 1)
    .pending id
  rw [if_neg other] at claims
  exact claims.trans abandoned

omit consistent

/-- A submission that is given up is lost. -/
theorem keeps_giveUp {id : Nat} {publisher : Publisher}
    (givenUp : service.publisher.giveUp? id = some publisher) :
    service.Keeps { service with publisher } ∧ Lost { service with publisher } id ∧
      line { service with publisher } = service.line := by
  unfold Publisher.giveUp? at givenUp
  split at givenUp
  · cases givenUp
    have claims := getElem?_insert_number service.publisher.claims id .abandoned
    refine ⟨⟨Nat.le_refl _, List.prefix_rfl, fun other lost => lost.imp_left fun abandoned => ?_⟩,
      .inl ?_, rfl⟩
    · rw [claims]
      split
      · rfl
      · exact abandoned
    · rw [claims, if_pos rfl]
  · cases givenUp

end Consistent

end Service

namespace Exchange

/-- A writer put a submission into the mailbox. -/
def Submitted (exchange : Exchange) (writer id : Nat) : Prop :=
  ∃ submission ∈ exchange.submitted, submission.writer = writer ∧ submission.request.id = id

/-- The service is consistent, every submission is on record, and what was told is true: what was
said to be published was, as the version that was named, and everything else is lost. -/
structure Truthful (exchange : Exchange) : Prop where
  consistent : exchange.service.Consistent
  ordered : (exchange.submitted.map (·.request.id)).Pairwise (· < ·)
  issued : ∀ submission ∈ exchange.submitted,
    submission.request.id ≤ exchange.service.publisher.issued
  line : ∀ request ∈ exchange.service.line, request ∈ exchange.submitted.map (·.request)
  waits : ∀ writer id, (exchange.writers writer).id? = some id → exchange.Submitted writer id
  told : ∀ telling ∈ exchange.told, exchange.Submitted telling.writer telling.id
  made : ∀ telling ∈ exchange.told, ∀ version, telling.verdict = .ok version →
    exchange.service.Made telling.id version
  lost : ∀ telling ∈ exchange.told, ∀ error, telling.verdict = .error error →
    exchange.service.Lost telling.id

theorem truthful_start : Truthful {} where
  consistent := Service.consistent_start
  ordered := .nil
  issued := fun _ member => nomatch member
  line := fun _ member => nomatch member
  waits := fun _ _ waits => nomatch waits
  told := fun _ member => nomatch member
  made := fun _ member => nomatch member
  lost := fun _ member => nomatch member

/-- What follows is truthful, and what was decided is kept. -/
structure Extends (exchange next : Exchange) : Prop where
  truthful : next.Truthful
  keeps : exchange.service.Keeps next.service

theorem Extends.trans {first second third : Exchange} (earlier : first.Extends second)
    (later : second.Extends third) : first.Extends third :=
  ⟨later.truthful, earlier.keeps.trans later.keeps⟩

namespace Truthful

variable {exchange : Exchange} (truthful : exchange.Truthful)

include truthful

theorem refl : exchange.Extends exchange :=
  ⟨truthful, .refl _⟩

/-- A service that lets nothing into its line and keeps what was decided. -/
theorem withService {service : Service} (consistent : service.Consistent)
    (keeps : exchange.service.Keeps service)
    (line : ∀ request ∈ service.line, request ∈ exchange.service.line) :
    exchange.Extends { exchange with service } := by
  refine ⟨{ truthful with
    consistent := consistent
    issued := ?issued
    line := fun request member => truthful.line request (line request member)
    made := ?made
    lost := ?lost }, keeps⟩
  case issued =>
    exact fun submission member => Nat.le_trans (truthful.issued submission member) keeps.issued
  case made =>
    exact fun telling member version told => (truthful.made telling member version told).append
      keeps.published
  case lost =>
    exact fun telling member error told => keeps.lost _ (truthful.lost telling member error told)

/-- A writer comes to wait for nothing but its own submission. -/
theorem move {writer : Nat} {point : Writer}
    (own : ∀ id, point.id? = some id → exchange.Submitted writer id) :
    exchange.Extends (exchange.move writer point) := by
  refine ⟨{ truthful with waits := fun other id waits => ?_ }, .refl _⟩
  rw [writers_move] at waits
  split at waits
  · next same => exact same ▸ own id waits
  · exact truthful.waits other id waits

/-- A writer is told the truth about its own submission. -/
theorem tell {writer id : Nat} {verdict : Verdict} (own : exchange.Submitted writer id)
    (made : ∀ version, verdict = .ok version → exchange.service.Made id version)
    (lost : ∀ error, verdict = .error error → exchange.service.Lost id) :
    exchange.Extends (exchange.tell writer id verdict) := by
  have moved : exchange.Extends (exchange.move writer .idle) :=
    truthful.move fun _ waits => nomatch waits
  refine ⟨{ moved.truthful with told := ?told, made := ?made, lost := ?lost }, .refl _⟩
  case told =>
    intro telling member
    rcases List.mem_append.mp member with earlier | now
    · exact truthful.told telling earlier
    · obtain rfl := List.mem_singleton.mp now
      exact own
  case made =>
    intro telling member version told
    rcases List.mem_append.mp member with earlier | now
    · exact truthful.made telling earlier version told
    · obtain rfl := List.mem_singleton.mp now
      exact made version told
  case lost =>
    intro telling member error told
    rcases List.mem_append.mp member with earlier | now
    · exact truthful.lost telling earlier error told
    · obtain rfl := List.mem_singleton.mp now
      exact lost error told

/-! ### Each step -/

theorem prepare (engine : Engine) (writer : Nat) (batch : Batch) :
    exchange.Extends (exchange.prepare engine writer batch) := by
  unfold Exchange.prepare
  split
  · exact truthful.move fun _ waits => nomatch waits
  · exact truthful.refl

theorem enqueue (hasNumber : exchange.service.publisher.hasNumber = true) (writer : Nat)
    (batch : Batch) (introduction : Introduction) :
    exchange.Extends (exchange.enqueue writer batch introduction) := by
  let submission : Submission :=
    ⟨writer, batch, exchange.service.publisher.nextRequest introduction⟩
  have keeps := truthful.consistent.keeps_enqueue introduction
  have recorded : ∀ {other id}, exchange.Submitted other id →
      (exchange.enqueue writer batch introduction).Submitted other id :=
    fun ⟨earlier, member, own⟩ => ⟨earlier, List.mem_append_left _ member, own⟩
  refine ⟨{
    consistent := truthful.consistent.enqueue hasNumber introduction
    ordered := ?ordered
    issued := ?issued
    line := ?line
    waits := fun other id waits => recorded (truthful.waits other id waits)
    told := fun telling member => recorded (truthful.told telling member)
    made := fun telling member version told => (truthful.made telling member version told).append
      keeps.published
    lost := fun telling member error told =>
      keeps.lost _ (truthful.lost telling member error told) }, keeps⟩
  case ordered =>
    show ((exchange.submitted ++ [submission]).map _).Pairwise _
    rw [List.map_append, List.pairwise_append]
    refine ⟨truthful.ordered, List.pairwise_singleton _ _, fun id member own isOwn => ?_⟩
    obtain ⟨earlier, isEarlier, rfl⟩ := List.mem_map.mp member
    rw [List.mem_singleton.mp isOwn]
    exact Nat.lt_succ_of_le (truthful.issued earlier isEarlier)
  case issued =>
    intro other member
    rcases List.mem_append.mp member with earlier | own
    · exact Nat.le_succ_of_le (truthful.issued other earlier)
    · rw [List.mem_singleton.mp own]
      exact Nat.le_refl _
  case line =>
    intro other member
    have inLine : other ∈ exchange.service.line ++ [submission.request] :=
      exchange.service.line_of_enqueue introduction ▸ member
    show other ∈ (exchange.submitted ++ [submission]).map _
    rw [List.map_append]
    rcases List.mem_append.mp inLine with earlier | own
    · exact List.mem_append_left _ (truthful.line other earlier)
    · exact List.mem_append_right _ own

theorem submit (writer : Nat) (deadline : Option Duration) :
    exchange.Extends (exchange.submit writer deadline) := by
  cases prepared : exchange.writers writer with
  | prepared batch introduction =>
    rw [submit_of_prepared truthful.consistent.usable prepared]
    split
    · exact truthful.move fun _ waits => nomatch waits
    next hasNumber =>
    rw [Bool.not_eq_true, Bool.not_eq_false'] at hasNumber
    split
    · have issued := truthful.withService (truthful.consistent.issueNumber hasNumber)
        exchange.service.keeps_issueNumber fun _ member => member
      exact issued.trans (issued.truthful.move fun _ waits => nomatch waits)
    · let submission : Submission :=
        ⟨writer, batch, exchange.service.publisher.nextRequest introduction⟩
      have queued := truthful.enqueue hasNumber writer batch introduction
      have last : submission ∈ exchange.submitted ++ [submission] :=
        List.mem_append_right _ (List.mem_singleton_self _)
      exact queued.trans (queued.truthful.move fun id same =>
        ⟨submission, last, rfl, Option.some.inj same⟩)
  | idle | waiting id other | overdue id other =>
    unfold Exchange.submit
    rw [prepared]
    exact truthful.refl

theorem collect (writer : Nat) : exchange.Extends (exchange.collect writer) := by
  unfold Exchange.collect
  split
  · next id _ waits =>
    have own : exchange.Submitted writer id := truthful.waits writer id (by rw [waits]; rfl)
    split
    · next verdict answered =>
      refine truthful.tell own (fun version told => ?_) fun error told => ?_
      · exact truthful.consistent.answered id version (told ▸ answered)
      · exact .inr ⟨error, told ▸ answered⟩
    · exact truthful.refl
  · exact truthful.refl

theorem expire (writer : Nat) : exchange.Extends (exchange.expire writer) := by
  unfold Exchange.expire
  split
  · next id deadline waits =>
    have own : exchange.Submitted writer id := truthful.waits writer id (by rw [waits]; rfl)
    split
    · exact truthful.refl
    · exact truthful.move fun other same => Option.some.inj same ▸ own
  · exact truthful.refl

theorem abandon (writer : Nat) : exchange.Extends (exchange.abandon writer) := by
  unfold Exchange.abandon
  split
  · next id deadline waits =>
    have own : exchange.Submitted writer id := truthful.waits writer id (by rw [waits]; rfl)
    split
    · next publisher givenUp =>
      obtain ⟨keeps, lost, sameLine⟩ := Service.Consistent.keeps_giveUp givenUp
      have taken : exchange.Extends (exchange.withPublisher publisher) :=
        truthful.withService (truthful.consistent.giveUp givenUp) keeps fun request member =>
          sameLine ▸ member
      exact taken.trans (taken.truthful.tell own (fun _ told => nomatch told) fun _ _ => lost)
    · exact truthful.move fun other same => Option.some.inj same ▸ own
  · exact truthful.refl

/-- **Every step keeps an exchange truthful**, and what was decided. -/
theorem step (engine : Engine) (action : Action) :
    exchange.Extends (exchange.step engine action) := by
  cases action with
  | prepare writer batch => exact truthful.prepare engine writer batch
  | submit writer deadline => exact truthful.submit writer deadline
  | collect writer => exact truthful.collect writer
  | expire writer => exact truthful.expire writer
  | abandon writer => exact truthful.abandon writer
  | beginClose =>
    have sheds := exchange.service.publisher.sheds_beginClose
    exact truthful.withService truthful.consistent.beginClose (Service.keeps_of_sheds sheds)
      (Service.line_of_sheds sheds).subset
  | serve =>
    exact truthful.withService truthful.consistent.serve truthful.consistent.keeps_serve
      truthful.consistent.line_serve.subset

/-- So do the steps of a schedule. -/
theorem run (engine : Engine) (schedule : List Action) :
    exchange.Extends (exchange.run engine schedule) := by
  induction schedule generalizing exchange with
  | nil => exact truthful.refl
  | cons action rest ih =>
    have first := truthful.step engine action
    exact first.trans (ih first.truthful)

/-- Each submission has a number of its own. -/
theorem request_eq {submission : Submission} (member : submission ∈ exchange.submitted)
    {request : Request} (inLine : request ∈ exchange.service.line)
    (same : request.id = submission.request.id) : request = submission.request := by
  obtain ⟨other, isOther, rfl⟩ := List.mem_map.mp (truthful.line request inLine)
  have distinct : (exchange.submitted.map (·.request.id)).Nodup :=
    truthful.ordered.imp Nat.ne_of_lt
  exact congrArg Submission.request (List.inj_on_of_nodup_map distinct isOther member same)

end Truthful

/-- **A submission is published if and only if its writer is told so.** Let any number of writers,
with deadlines or without, the publisher, and whoever closes the index take their steps in any
order. No submission is published twice. A writer that was told a version has what it submitted
published as exactly that version. A writer that was told of an error has it in no published
snapshot, then or later, and neither has anyone whose submission was given up or refused. Whoever
submitted what is published has the version for an answer after one more step of the publisher at
most, and is told nothing else. Each version is made from the one before by what is published as it,
and a step that publishes nothing leaves the root as it is, so the root's version is the number of
submissions that are published. -/
theorem told_iff_published (engine : Engine) (schedule later : List Action) :
    let exchange := run engine {} schedule
    let afterwards := run engine exchange later
    (afterwards.service.published.map (·.request.id)).Nodup ∧
      (exchange.submitted.map (·.request.id)).Nodup ∧
      (∀ telling ∈ exchange.told, ∃ submission ∈ exchange.submitted,
        submission.writer = telling.writer ∧ submission.request.id = telling.id ∧
        match telling.verdict with
        | .ok version => exchange.service.Publishes submission.request version
        | .error _ => afterwards.service.Without telling.id) ∧
      (∀ id, exchange.service.Lost id → afterwards.service.Without id) ∧
      (∀ place publication, exchange.service.published[place]? = some publication →
        (∃ report, (exchange.service.versionAt place).introduce publication.request.id
          publication.request.introduction = .ok (publication.snapshot, report)) ∧
        (exchange.service.publisher.answers[publication.request.id]? = some (.ok (place + 1)) ∨
          exchange.service.serve.publisher.answers[publication.request.id]? =
            some (.ok (place + 1))) ∧
        ∀ telling ∈ afterwards.told, telling.id = publication.request.id →
          telling.verdict = .ok (place + 1)) ∧
      exchange.service.root = exchange.service.versionAt exchange.service.published.length ∧
      exchange.service.root.version = exchange.service.published.length ∧
      ∀ action, (exchange.step engine action).service.published = exchange.service.published →
        (exchange.step engine action).service.root = exchange.service.root := by
  intro exchange afterwards
  have before : exchange.Truthful := (truthful_start.run engine schedule).truthful
  have extended : exchange.Extends afterwards := before.run engine later
  have after := extended.truthful
  have without : ∀ id, exchange.service.Lost id → afterwards.service.Without id := fun id lost =>
    after.consistent.without_of_lost (extended.keeps.lost id lost)
  refine ⟨after.consistent.nodup_published, before.ordered.imp Nat.ne_of_lt, ?_, without, ?_,
    before.consistent.root, before.consistent.version_root, ?_⟩
  · intro telling member
    obtain ⟨submission, isSubmission, own, sameId⟩ := before.told telling member
    refine ⟨submission, isSubmission, own, sameId, ?_⟩
    split
    · next version told =>
      obtain ⟨place, publication, rfl, held, same⟩ := before.made telling member version told
      have inLine : publication.request ∈ exchange.service.line := Service.request_mem_line held
      rw [← before.request_eq isSubmission inLine (same.trans sameId.symm)]
      exact ⟨publication.snapshot, before.consistent.version_published held, Nat.succ_pos _, held⟩
    · next error told => exact without _ (before.lost telling member error told)
  · intro place publication held
    refine ⟨before.consistent.chain place publication held,
      before.consistent.answers_published held, fun telling member same => ?_⟩
    obtain ⟨rest, isAfter⟩ := extended.keeps.published
    have stillHeld : afterwards.service.published[place]? = some publication := by
      rw [← isAfter, List.getElem?_append_left (List.getElem?_eq_some_iff.mp held).1, held]
    cases told : telling.verdict with
    | ok version =>
      obtain ⟨madeAt, other, rfl, isMade, sameId⟩ := after.made telling member version told
      rw [after.consistent.place_unique isMade stillHeld (sameId.trans same)]
    | error error =>
      have lost := after.lost telling member error told
      exact absurd same.symm
        (after.consistent.ne_of_lost lost publication (List.mem_of_getElem? stillHeld))
  · intro action same
    have stepped := (before.step engine action).truthful.consistent
    rw [stepped.root, before.consistent.root]
    unfold Service.versionAt
    rw [same]

/-- Two writers see their deadlines pass. The first takes its submission back in time, the second
when the publisher has claimed it. -/
def backInTimeAndTooLate : List Action :=
  let batch := (Batch.empty.put {} "a").2
  let deadline := Duration.ofMilliseconds 1
  [.prepare 0 batch, .prepare 1 batch, .submit 0 (some deadline), .submit 1 (some deadline),
    .expire 0, .abandon 0, .serve, .serve, .expire 1, .abandon 1, .serve, .serve, .collect 1]

example : (run .standard {} backInTimeAndTooLate).told.map
    (fun telling => (telling.writer, telling.verdict.toOption)) = [(0, none), (1, some 1)] := by
  decide +kernel

end Exchange

end TextIndex
