import TextIndex.Proofs.Analysis.Answers
import TextIndex.Proofs.KeyedLists

/-!
# A worker pool with many owners

Any number of owners bring documents to one worker pool, each for answers of its own. Documents are
let in, find room, are taken by workers and are finished, the pool is closed, and workers stop when
nothing will come any more, in whatever order these steps are taken. At any time everything that was
accepted waits, or is being analyzed, or was answered, once and to its owner.

* `Workshop`: a pool with a record of who brought what.
* `Workshop.step`, `Workshop.run`: one step, and any steps in any order.
* `Workshop.Tracks`: where everything that was let in is.
* `Workshop.Tracks.step`: what every step preserves.
* `Workshop.run_answers`: every document that is accepted is answered once, whatever the order.
-/

namespace TextIndex

/-- A document that is brought to a pool, for an answer to its owner. -/
structure Errand where
  owner : Nat
  work : Work

/-- A pool with a record of what was brought to it. -/
structure Workshop where
  pool : WorkerPool
  /-- What was let in, in order of the numbers given out. -/
  brought : List Errand := []
  /-- What was kept out, with the errors. -/
  refused : List (Errand × IndexError) := []
  /-- The numbers of what found room to wait for a worker. -/
  accepted : List Nat := []
  /-- How many workers have stopped. -/
  gone : Nat := 0

namespace Workshop

/-- Who takes a step, and which. -/
inductive Action
  | bring (errand : Errand)
  /-- What was let in under a number finds room. -/
  | accept (ticket : Nat)
  | take
  | finish (ticket : Nat)
  | close
  /-- A free worker stops. -/
  | leave

/-- A pool that was just started. -/
def start (workers capacity : Nat) : Workshop :=
  { pool := { workers, capacity } }

/-- A document is let in or kept out. -/
def bring (workshop : Workshop) (errand : Errand) : Workshop :=
  match workshop.pool.enter errand.work with
  | .ok pool => { workshop with pool, brought := workshop.brought ++ [errand] }
  | .error error => { workshop with refused := workshop.refused ++ [(errand, error)] }

/-- What was let in finds room. -/
def accept (workshop : Workshop) (ticket : Nat) : Workshop :=
  match workshop.pool.admit? ticket with
  | some pool => { workshop with pool, accepted := workshop.accepted ++ [ticket] }
  | none => workshop

/-- The pool after a step of a worker, if it can be taken. -/
def withPool (workshop : Workshop) (next : Option WorkerPool) : Workshop :=
  { workshop with pool := next.getD workshop.pool }

/-- A worker stops when it is free, nothing waits, and nobody can bring anything any more. -/
def leave (workshop : Workshop) : Workshop :=
  if workshop.pool.closed ∧ workshop.pool.entering = [] ∧ workshop.pool.waiting = [] ∧
      workshop.pool.busy.length + workshop.gone < workshop.pool.workers then
    { workshop with gone := workshop.gone + 1 }
  else workshop

/-- One step. It changes nothing if it cannot be taken. -/
def step (workshop : Workshop) : Action → Workshop
  | .bring errand => workshop.bring errand
  | .accept ticket => workshop.accept ticket
  | .take => workshop.withPool workshop.pool.take?
  | .finish ticket => workshop.withPool (workshop.pool.finish? ticket)
  | .close => { workshop with pool := workshop.pool.close }
  | .leave => workshop.leave

/-- The steps of a schedule, one after the other. -/
def run (workshop : Workshop) (schedule : List Action) : Workshop :=
  schedule.foldl step workshop

/-- Everything that was let in, under its numbers. -/
def jobs (workshop : Workshop) : List Job :=
  WorkerPool.jobsFrom 0 (workshop.brought.map (·.work))

/-- The answers that an owner was sent. -/
def mailbox (workshop : Workshop) (owner : Nat) : List Answer :=
  workshop.pool.answered.filter fun answer =>
    workshop.brought[answer.ticket]?.any (·.owner == owner)

end Workshop

namespace WorkerPool

/-- Nothing is in the pool any more but answers. -/
structure AtRest (pool : WorkerPool) : Prop where
  entering : pool.entering = []
  waiting : pool.waiting = []
  busy : pool.busy = []

/-- The steps that are left until everything let in is answered. -/
def stepsLeft (pool : WorkerPool) : Nat :=
  3 * pool.entering.length + 2 * pool.waiting.length + pool.busy.length

theorem jobsFrom_concat (number : Nat) (works : List Work) (last : Work) :
    jobsFrom number (works ++ [last]) =
      jobsFrom number works ++ [⟨number + works.length, last⟩] := by
  unfold jobsFrom
  rw [List.mapIdx_concat]

theorem map_ticket_jobsFrom (works : List Work) :
    (jobsFrom 0 works).map (·.ticket) = List.range works.length := by
  refine List.ext_getElem? fun place => ?_
  by_cases within : place < works.length
  · simp [jobsFrom, within]
  · simp [jobsFrom, within]

/-! ### The steps of a pool -/

section Steps

variable {pool next : WorkerPool} {ticket : Nat}

theorem admit?_eq_some (admitted : pool.admit? ticket = some next) :
    pool.waiting.length < pool.capacity ∧ ∃ job, job.ticket = ticket ∧
      pool.entering.find? (·.ticket == ticket) = some job ∧
      next = { pool with
        entering := pool.entering.filter (·.ticket != ticket)
        waiting := pool.waiting ++ [job] } := by
  unfold admit? at admitted
  split at admitted
  · next room =>
    obtain ⟨job, found, rfl⟩ := Option.map_eq_some_iff.mp admitted
    exact ⟨room, job, by simpa using List.find?_some found, found, rfl⟩
  · cases admitted

theorem take?_eq_some (taken : pool.take? = some next) :
    pool.busy.length < pool.workers ∧ ∃ job waiting, pool.waiting = job :: waiting ∧
      next = { pool with waiting, busy := pool.busy ++ [job] } := by
  unfold take? at taken
  split at taken
  · next free =>
    split at taken
    · next job waiting isWaiting =>
      exact ⟨free, job, waiting, isWaiting, (Option.some.inj taken).symm⟩
    · cases taken
  · cases taken

theorem finish?_eq_some (finished : pool.finish? ticket = some next) :
    ∃ job, job.ticket = ticket ∧ pool.busy.find? (·.ticket == ticket) = some job ∧
      next = { pool with
        busy := pool.busy.filter (·.ticket != ticket)
        answered := pool.answered ++ [job.answer] } := by
  obtain ⟨job, found, rfl⟩ := Option.map_eq_some_iff.mp finished
  exact ⟨job, by simpa using List.find?_some found, found, rfl⟩

end Steps

end WorkerPool

namespace Workshop

/-- Everything that was let in is at one place: on its way, waiting, being analyzed, or answered. -/
structure Tracks (workers capacity : Nat) (workshop : Workshop) (answered : List Job) :
    Prop where
  sizes : workshop.pool.workers = workers ∧ workshop.pool.capacity = capacity
  issued : workshop.pool.issued = workshop.brought.length
  places : (workshop.pool.entering ++
    (workshop.pool.waiting ++ workshop.pool.busy ++ answered)).Perm workshop.jobs
  answers : workshop.pool.answered = answered.map Job.answer
  accepted : ((workshop.pool.waiting ++ workshop.pool.busy ++ answered).map (·.ticket)).Perm
    workshop.accepted
  room : workshop.pool.waiting.length ≤ capacity
  crew : workshop.pool.busy.length + workshop.gone ≤ workers
  leaving : workshop.gone ≠ 0 → workshop.pool.closed = true ∧ workshop.pool.entering = [] ∧
    workshop.pool.waiting = []
  refused : ∀ entry ∈ workshop.refused, entry.2 = .closed ∧ workshop.pool.closed = true

theorem jobs_brought (workshop : Workshop) (pool : WorkerPool) (errand : Errand) :
    jobs { workshop with pool, brought := workshop.brought ++ [errand] } =
      workshop.jobs ++ [⟨workshop.brought.length, errand.work⟩] := by
  unfold jobs
  rw [List.map_append, List.map_singleton, WorkerPool.jobsFrom_concat]
  simp

theorem tracks_start (workers capacity : Nat) :
    (start workers capacity).Tracks workers capacity [] where
  sizes := ⟨rfl, rfl⟩
  issued := rfl
  places := .nil
  answers := rfl
  accepted := .nil
  room := Nat.zero_le _
  crew := Nat.zero_le _
  leaving := fun leaves => absurd rfl leaves
  refused := fun _ member => nomatch member

namespace Tracks

variable {workers capacity : Nat} {workshop : Workshop} {answered : List Job}
  (tracks : workshop.Tracks workers capacity answered)

include tracks

/-- No number is given out twice. -/
theorem distinct : ((workshop.pool.entering ++
    (workshop.pool.waiting ++ workshop.pool.busy ++ answered)).map (·.ticket)).Nodup := by
  refine (tracks.places.map _).nodup_iff.mpr ?_
  unfold jobs
  rw [WorkerPool.map_ticket_jobsFrom]
  exact List.nodup_range

theorem bring (errand : Errand) : (workshop.bring errand).Tracks workers capacity answered := by
  unfold Workshop.bring WorkerPool.enter
  by_cases isClosed : workshop.pool.closed
  · rw [if_pos isClosed]
    refine ⟨tracks.sizes, tracks.issued, tracks.places, tracks.answers, tracks.accepted,
      tracks.room, tracks.crew, tracks.leaving, fun entry member => ?_⟩
    rcases List.mem_append.mp member with earlier | last
    · exact tracks.refused entry earlier
    · rw [List.mem_singleton.mp last]
      exact ⟨rfl, isClosed⟩
  · rw [if_neg isClosed]
    refine ⟨tracks.sizes, ?_, ?_, tracks.answers, tracks.accepted, tracks.room, tracks.crew,
      fun leaves => absurd (tracks.leaving leaves).1 isClosed, tracks.refused⟩
    · simp [tracks.issued]
    · rw [jobs_brought, ← tracks.issued]
      refine List.Perm.trans ?_ (tracks.places.append_right _)
      classical
      simp only [List.perm_iff_count, List.count_append]
      intro job
      omega

theorem accept (ticket : Nat) : (workshop.accept ticket).Tracks workers capacity answered := by
  unfold Workshop.accept
  cases admitted : workshop.pool.admit? ticket with
  | none => exact tracks
  | some next =>
    obtain ⟨room, job, rfl, found, rfl⟩ := WorkerPool.admit?_eq_some admitted
    have entering : (workshop.pool.entering.map (·.ticket)).Nodup :=
      tracks.distinct.sublist (by simp)
    have moved := perm_cons_filter (·.ticket) entering (List.mem_of_find?_eq_some found)
    have last : (workshop.pool.waiting ++ [job] ++ workshop.pool.busy ++ answered).Perm
        (workshop.pool.waiting ++ workshop.pool.busy ++ answered ++ [job]) := by
      classical
      simp only [List.perm_iff_count, List.count_append]
      intro other
      omega
    refine ⟨tracks.sizes, tracks.issued, ?_, tracks.answers, ?_, ?_, tracks.crew, ?_,
      tracks.refused⟩
    · refine List.Perm.trans ?_ ((moved.append_right _).symm.trans tracks.places)
      refine (last.append_left _).trans ?_
      rw [← List.append_assoc]
      exact List.perm_append_singleton ..
    · refine (last.map _).trans ?_
      rw [List.map_append]
      exact tracks.accepted.append_right _
    · rw [tracks.sizes.2] at room
      simpa using Nat.succ_le_of_lt room
    · intro leaves
      have idle := (tracks.leaving leaves).2.1
      rw [idle] at found
      cases found

theorem take : (workshop.withPool workshop.pool.take?).Tracks workers capacity answered := by
  unfold withPool
  cases taken : workshop.pool.take? with
  | none => exact tracks
  | some next =>
    obtain ⟨free, job, waiting, isWaiting, rfl⟩ := WorkerPool.take?_eq_some taken
    have idle : workshop.gone = 0 := by
      by_contra leaves
      have noWaiting := (tracks.leaving leaves).2.2
      rw [isWaiting] at noWaiting
      cases noWaiting
    have moved : (waiting ++ (workshop.pool.busy ++ [job]) ++ answered).Perm
        (workshop.pool.waiting ++ workshop.pool.busy ++ answered) := by
      classical
      simp only [isWaiting, List.perm_iff_count, List.count_append, List.count_cons, List.count_nil]
      intro other
      omega
    refine ⟨tracks.sizes, tracks.issued, (moved.append_left _).trans tracks.places, tracks.answers,
      (moved.map _).trans tracks.accepted, ?_, ?_, fun leaves => absurd idle leaves, tracks.refused⟩
    · have room := tracks.room
      rw [isWaiting, List.length_cons] at room
      exact Nat.le_of_succ_le room
    · rw [tracks.sizes.1] at free
      simpa [idle] using Nat.succ_le_of_lt free

theorem finish (ticket : Nat) :
    ∃ more, (workshop.withPool (workshop.pool.finish? ticket)).Tracks workers capacity
      (answered ++ more) := by
  unfold withPool
  cases finished : workshop.pool.finish? ticket with
  | none =>
    refine ⟨[], ?_⟩
    rw [List.append_nil]
    exact tracks
  | some next =>
    obtain ⟨job, rfl, found, rfl⟩ := WorkerPool.finish?_eq_some finished
    have inside : workshop.pool.busy.Sublist (workshop.pool.entering ++
        (workshop.pool.waiting ++ workshop.pool.busy ++ answered)) :=
      ((List.sublist_append_right _ _).trans (List.sublist_append_left _ _)).trans
        (List.sublist_append_right _ _)
    have busy : (workshop.pool.busy.map (·.ticket)).Nodup :=
      tracks.distinct.sublist (inside.map _)
    have out := perm_cons_filter (·.ticket) busy (List.mem_of_find?_eq_some found)
    have moved : (workshop.pool.waiting ++ workshop.pool.busy.filter (·.ticket != job.ticket) ++
        (answered ++ [job])).Perm (workshop.pool.waiting ++ workshop.pool.busy ++ answered) := by
      classical
      simp only [List.perm_iff_count, List.count_append, List.count_cons, List.count_nil] at out ⊢
      intro other
      have := out other
      omega
    refine ⟨[job], tracks.sizes, tracks.issued, (moved.append_left _).trans tracks.places, ?_,
      (moved.map _).trans tracks.accepted, tracks.room, ?_, tracks.leaving, tracks.refused⟩
    · simp [tracks.answers]
    · have fewer := out.length_eq
      have crew := tracks.crew
      simp only [Option.getD_some, List.length_cons] at fewer ⊢
      omega

theorem close :
    Tracks workers capacity { workshop with pool := workshop.pool.close } answered :=
  ⟨tracks.sizes, tracks.issued, tracks.places, tracks.answers, tracks.accepted, tracks.room,
    tracks.crew, fun leaves => ⟨rfl, (tracks.leaving leaves).2⟩,
    fun entry member => ⟨(tracks.refused entry member).1, rfl⟩⟩

theorem leave : workshop.leave.Tracks workers capacity answered := by
  unfold Workshop.leave
  split
  · next stops =>
    obtain ⟨isClosed, entering, waiting, free⟩ := stops
    rw [tracks.sizes.1] at free
    exact ⟨tracks.sizes, tracks.issued, tracks.places, tracks.answers, tracks.accepted,
      tracks.room, free, fun _ => ⟨isClosed, entering, waiting⟩, tracks.refused⟩
  · exact tracks

/-- **No step loses anything or answers it twice.** -/
theorem step (action : Action) :
    ∃ more, (workshop.step action).Tracks workers capacity (answered ++ more) := by
  have same {next : Workshop} (kept : next.Tracks workers capacity answered) :
      ∃ more, next.Tracks workers capacity (answered ++ more) := ⟨[], by rwa [List.append_nil]⟩
  cases action with
  | bring errand => exact same (tracks.bring errand)
  | accept ticket => exact same (tracks.accept ticket)
  | take => exact same tracks.take
  | finish ticket => exact tracks.finish ticket
  | close => exact same tracks.close
  | leave => exact same tracks.leave

theorem run (schedule : List Action) :
    ∃ more, (workshop.run schedule).Tracks workers capacity (answered ++ more) := by
  induction schedule generalizing workshop answered with
  | nil => exact ⟨[], by rwa [List.append_nil]⟩
  | cons first rest ih =>
    obtain ⟨more, next⟩ := tracks.step first
    obtain ⟨later, final⟩ := ih next
    exact ⟨more ++ later, by rwa [← List.append_assoc]⟩

/-- Only numbers of what was let in are accepted, and each of them once. -/
theorem nodup_accepted : workshop.accepted.Nodup := by
  rw [← tracks.accepted.nodup_iff]
  exact tracks.distinct.sublist ((List.sublist_append_right _ _).map _)

theorem exists_job {answer : Answer} (member : answer ∈ workshop.pool.answered) :
    ∃ errand, workshop.brought[answer.ticket]? = some errand ∧
      answer = Job.answer ⟨answer.ticket, errand.work⟩ := by
  rw [tracks.answers] at member
  obtain ⟨job, done, rfl⟩ := List.mem_map.mp member
  have known : job ∈ workshop.jobs :=
    tracks.places.subset (List.mem_append_right _ (List.mem_append_right _ done))
  obtain ⟨place, within, rfl⟩ := List.mem_mapIdx.mp known
  rw [List.length_map] at within
  refine ⟨workshop.brought[place], ?_, ?_⟩
  · simp [Job.answer, within]
  · simp [Job.answer]

theorem map_ticket_answered :
    workshop.pool.answered.map (·.ticket) = answered.map (·.ticket) := by
  rw [tracks.answers, List.map_map]
  rfl

theorem nodup_answered : (workshop.pool.answered.map (·.ticket)).Nodup := by
  rw [tracks.map_ticket_answered]
  exact tracks.distinct.sublist (((List.sublist_append_right _ _).trans
    (List.sublist_append_right _ _)).map _)

/-- An owner's answers to one document: there is none but to its own. -/
theorem filter_mailbox {answer : Answer} (member : answer ∈ workshop.pool.answered)
    {errand : Errand} (brought : workshop.brought[answer.ticket]? = some errand) (owner : Nat) :
    (workshop.mailbox owner).filter (·.ticket == answer.ticket) =
      if owner = errand.owner then [answer] else [] := by
  unfold mailbox
  rw [List.filter_filter]
  split
  · next own =>
    rw [← filter_key_eq_singleton (·.ticket) tracks.nodup_answered member]
    refine List.filter_congr fun other _ => ?_
    by_cases same : other.ticket = answer.ticket <;> simp [same, brought, own]
  · next foreign =>
    refine List.filter_eq_nil_iff.mpr fun other _ => ?_
    by_cases same : other.ticket = answer.ticket
    · simpa [same, brought] using Ne.symm foreign
    · simp [same]

end Tracks

/-! ### Steps that are left -/

/-- A step of those who answer what was let in. -/
def Action.Serves : Action → Prop
  | .accept _ | .take | .finish _ => True
  | _ => False

namespace Tracks

variable {workers capacity : Nat} {workshop : Workshop} {answered : List Job}
  (tracks : workshop.Tracks workers capacity answered)

include tracks

/-- As long as something is not answered, somebody can go on. -/
theorem goes_on (staffed : 0 < workers) (roomy : 0 < capacity) (left : ¬workshop.pool.AtRest) :
    ∃ action : Action, action.Serves ∧
      (workshop.step action).pool.stepsLeft < workshop.pool.stepsLeft := by
  have workerFree : 0 < workshop.pool.workers := tracks.sizes.1 ▸ staffed
  have roomLeft : 0 < workshop.pool.capacity := tracks.sizes.2 ▸ roomy
  cases busy : workshop.pool.busy with
  | cons job rest =>
    refine ⟨.finish job.ticket, trivial, ?_⟩
    have others := List.length_filter_le (·.ticket != job.ticket) rest
    simp [Workshop.step, withPool, WorkerPool.finish?, busy, WorkerPool.stepsLeft]
    omega
  | nil =>
    cases waiting : workshop.pool.waiting with
    | cons job rest =>
      refine ⟨.take, trivial, ?_⟩
      simp [Workshop.step, withPool, WorkerPool.take?, busy, waiting, workerFree,
        WorkerPool.stepsLeft]
      omega
    | nil =>
      cases entering : workshop.pool.entering with
      | nil => exact absurd ⟨entering, waiting, busy⟩ left
      | cons job rest =>
        refine ⟨.accept job.ticket, trivial, ?_⟩
        have others := List.length_filter_le (·.ticket != job.ticket) rest
        simp [Workshop.step, Workshop.accept, WorkerPool.admit?, busy, waiting, entering, roomLeft,
          WorkerPool.stepsLeft]
        omega

/-- **Everything let in can be answered**, whatever happened before. -/
theorem exists_answering (staffed : 0 < workers) (roomy : 0 < capacity) :
    ∃ schedule : List Action, (∀ action ∈ schedule, action.Serves) ∧
      (workshop.run schedule).pool.AtRest := by
  induction steps : workshop.pool.stepsLeft using Nat.strongRecOn
    generalizing workshop answered with
  | _ bound ih =>
    by_cases left : workshop.pool.AtRest
    · exact ⟨[], nofun, left⟩
    · obtain ⟨action, serves, fewer⟩ := tracks.goes_on staffed roomy left
      obtain ⟨more, next⟩ := tracks.step action
      obtain ⟨schedule, others, rests⟩ := ih _ (steps ▸ fewer) next rfl
      exact ⟨action :: schedule, List.forall_mem_cons.mpr ⟨serves, others⟩, rests⟩

end Tracks

/-- Once the pool is closed nothing is let in any more. -/
theorem step_bring_of_closed {workshop : Workshop} (isClosed : workshop.pool.closed = true)
    (errand : Errand) : workshop.step (.bring errand) =
      { workshop with refused := workshop.refused ++ [(errand, .closed)] } := by
  unfold step bring WorkerPool.enter
  simp [isClosed]

/-- A closed pool stays closed, and what was let in stays the same. -/
theorem brought_step_of_closed {workshop : Workshop} (isClosed : workshop.pool.closed = true)
    (action : Action) : (workshop.step action).pool.closed = true ∧
      (workshop.step action).brought = workshop.brought := by
  cases action with
  | bring errand =>
    rw [step_bring_of_closed isClosed]
    exact ⟨isClosed, rfl⟩
  | accept ticket =>
    show (workshop.accept ticket).pool.closed = true ∧
      (workshop.accept ticket).brought = workshop.brought
    unfold accept
    cases admitted : workshop.pool.admit? ticket with
    | none => exact ⟨isClosed, rfl⟩
    | some next =>
      obtain ⟨-, job, -, -, rfl⟩ := WorkerPool.admit?_eq_some admitted
      exact ⟨isClosed, rfl⟩
  | take =>
    refine ⟨?_, rfl⟩
    show (workshop.pool.take?.getD workshop.pool).closed = true
    cases taken : workshop.pool.take? with
    | none => exact isClosed
    | some next =>
      obtain ⟨-, job, waiting, -, rfl⟩ := WorkerPool.take?_eq_some taken
      exact isClosed
  | finish ticket =>
    refine ⟨?_, rfl⟩
    show ((workshop.pool.finish? ticket).getD workshop.pool).closed = true
    cases finished : workshop.pool.finish? ticket with
    | none => exact isClosed
    | some next =>
      obtain ⟨job, -, -, rfl⟩ := WorkerPool.finish?_eq_some finished
      exact isClosed
  | close => exact ⟨rfl, rfl⟩
  | leave =>
    show workshop.leave.pool.closed = true ∧ workshop.leave.brought = workshop.brought
    unfold leave
    split <;> exact ⟨isClosed, rfl⟩

theorem brought_run_of_closed {workshop : Workshop} (isClosed : workshop.pool.closed = true)
    (schedule : List Action) : (workshop.run schedule).brought = workshop.brought := by
  induction schedule generalizing workshop with
  | nil => rfl
  | cons first rest ih =>
    obtain ⟨still, same⟩ := brought_step_of_closed isClosed first
    exact (ih still).trans same

end Workshop

/-- An answer says what the analysis of a document came to, under the id of the document. That an
analyzer crashed is said as an error. -/
structure Answer.Tells (answer : Answer) (work : Work) : Prop where
  id : answer.id = work.document.id.getD ""
  analyzed : ∀ analyzed, analyzeDocument work.analyzers work.withPlaces work.document =
    .ok analyzed → answer.outcome = .ok analyzed
  failed : ∀ error, analyzeDocument work.analyzers work.withPlaces work.document =
    .error (.failed error) → answer.outcome = .error error
  crashed : ∀ words, analyzeDocument work.analyzers work.withPlaces work.document =
    .error (.crashed words) → answer.outcome = .error (.analysis (.crashed words))

theorem Job.tells_answer (job : Job) : job.answer.Tells job.work where
  id := rfl
  analyzed := fun analyzed done => by
    show job.work.outcome = _
    unfold Work.outcome
    rw [done]
    rfl
  failed := fun error done => by
    show job.work.outcome = _
    unfold Work.outcome
    rw [done]
    rfl
  crashed := fun words done => by
    show job.work.outcome = _
    unfold Work.outcome
    rw [done]
    rfl

namespace Workshop

/-- What holds of a pool at any time. -/
structure Answers (workers capacity : Nat) (workshop : Workshop) : Prop where
  /-- What was accepted waits, or is being analyzed, or was answered, each document once. -/
  places : (workshop.pool.waiting.map (·.ticket) ++ workshop.pool.busy.map (·.ticket) ++
    workshop.pool.answered.map (·.ticket)).Perm workshop.accepted
  distinct : workshop.accepted.Nodup
  room : workshop.pool.waiting.length ≤ capacity
  crew : workshop.pool.busy.length ≤ workers
  /-- An answer is for one document, and nobody but its owner was sent it. -/
  answered : ∀ answer ∈ workshop.pool.answered, ∃ errand,
    workshop.brought[answer.ticket]? = some errand ∧ answer.Tells errand.work ∧
      ∀ owner, (workshop.mailbox owner).filter (·.ticket == answer.ticket) =
        if owner = errand.owner then [answer] else []
  /-- No worker stops while the pool is open, whatever came of its documents. -/
  staffed : workshop.pool.closed = false → workshop.gone = 0
  /-- A worker that has finished a document takes the next one. -/
  goesOn : ∀ ticket next, workshop.pool.finish? ticket = some next → next.waiting ≠ [] →
    next.take?.isSome
  /-- Nothing that was let in is stuck. -/
  answerable : ∃ schedule : List Action, (∀ action ∈ schedule, action.Serves) ∧
    (workshop.run schedule).pool.AtRest
  /-- Nothing was kept out while the pool was open. -/
  refused : ∀ entry ∈ workshop.refused, entry.2 = .closed ∧ workshop.pool.closed = true
  /-- What is brought after closing is kept out, and so never answered. -/
  shut : workshop.pool.closed = true →
    (∀ errand, workshop.step (.bring errand) =
      { workshop with refused := workshop.refused ++ [(errand, .closed)] }) ∧
    ∀ later, (workshop.run later).brought = workshop.brought
  /-- When all workers have stopped, everything that was let in was accepted and answered. -/
  stopped : workshop.gone = workers →
    (workshop.pool.answered.map (·.ticket)).Perm workshop.accepted ∧
      workshop.accepted.Perm (List.range workshop.brought.length)

/-- A worker that has finished is free, so what waits longest can be taken. -/
theorem Tracks.isSome_take? {workers capacity : Nat} {workshop : Workshop} {answered : List Job}
    (tracks : workshop.Tracks workers capacity answered) {ticket : Nat} {next : WorkerPool}
    (finished : workshop.pool.finish? ticket = some next) (waits : next.waiting ≠ []) :
    next.take?.isSome := by
  obtain ⟨job, rfl, found, rfl⟩ := WorkerPool.finish?_eq_some finished
  obtain ⟨first, rest, isWaiting⟩ := List.exists_cons_of_ne_nil waits
  have waiting : workshop.pool.waiting = first :: rest := isWaiting
  have free : (workshop.pool.busy.filter (·.ticket != job.ticket)).length <
      workshop.pool.workers := by
    have fewer : (workshop.pool.busy.filter (·.ticket != job.ticket)).length <
        workshop.pool.busy.length :=
      List.length_filter_lt_length_iff_exists.mpr ⟨job, List.mem_of_find?_eq_some found, by simp⟩
    have crew := tracks.crew
    rw [← tracks.sizes.1] at crew
    omega
  unfold WorkerPool.take?
  simp [free, waiting]

theorem Tracks.answers_all {workers capacity : Nat} {workshop : Workshop} {answered : List Job}
    (tracks : workshop.Tracks workers capacity answered) (staffed : 0 < workers)
    (roomy : 0 < capacity) : workshop.Answers workers capacity where
  places := by
    have accepted := tracks.accepted
    rw [List.map_append, List.map_append] at accepted
    rw [tracks.map_ticket_answered]
    exact accepted
  distinct := tracks.nodup_accepted
  room := tracks.room
  crew := Nat.le_of_add_right_le tracks.crew
  answered := fun answer member => by
    obtain ⟨errand, brought, same⟩ := tracks.exists_job member
    exact ⟨errand, brought, same ▸ Job.tells_answer _, tracks.filter_mailbox member brought⟩
  staffed := fun isOpen => by
    by_contra some
    rw [(tracks.leaving some).1] at isOpen
    cases isOpen
  goesOn := fun _ _ => tracks.isSome_take?
  answerable := tracks.exists_answering staffed roomy
  refused := tracks.refused
  shut := fun isClosed =>
    ⟨step_bring_of_closed isClosed, brought_run_of_closed isClosed⟩
  stopped := by
    intro all
    obtain ⟨-, entering, waiting⟩ := tracks.leaving (by omega)
    have crew := tracks.crew
    have busy : workshop.pool.busy = [] := List.length_eq_zero_iff.mp (by omega)
    have accepted := tracks.accepted
    have places := tracks.places.map (·.ticket)
    rw [waiting, busy] at accepted
    rw [entering, waiting, busy, jobs, WorkerPool.map_ticket_jobsFrom, List.length_map] at places
    rw [tracks.map_ticket_answered]
    exact ⟨accepted, accepted.symm.trans places⟩

/-- **Every document that is accepted is answered once**, whoever brings what and in whatever order
the steps are taken. -/
theorem run_answers {workers capacity : Nat} (staffed : 0 < workers) (roomy : 0 < capacity)
    (schedule : List Action) :
    WorkerPool.start workers capacity = .ok (start workers capacity).pool ∧
      ((start workers capacity).run schedule).Answers workers capacity := by
  refine ⟨?_, ?_⟩
  · unfold WorkerPool.start
    rw [if_neg (Nat.ne_of_gt staffed), if_neg (Nat.ne_of_gt roomy)]
    rfl
  · obtain ⟨answered, tracks⟩ := (tracks_start workers capacity).run schedule
    exact tracks.answers_all staffed roomy

/-- A document for the given owner. Its analyzer crashes if it has the field `fragile`. -/
def errandOf (owner : Nat) (id : String) (field : String) : Errand where
  owner
  work :=
    { document := { id := some id, fields := [⟨field, .text "Rust", {}⟩] }
      analyzers := (FieldAnalyzers.of .keyword).insert "fragile"
        ⟨"fragile", fun _ => .error (.crashed none)⟩
      withPlaces := false }

/-- Two owners bring documents to one worker with room for one. The pool is closed while one of them
still waits for room, and one comes too late. -/
def crowded : List Action :=
  [.bring (errandOf 1 "a" "fragile"), .bring (errandOf 2 "b" "title"), .accept 0, .take, .accept 1,
    .bring (errandOf 1 "c" "title"), .close, .bring (errandOf 2 "d" "title"), .finish 0, .take,
    .accept 2, .finish 1, .take, .finish 2, .leave]

theorem run_answers_crowded :
    ((start 1 1).run crowded).gone = 1 ∧
      (((start 1 1).run crowded).mailbox 1).map (fun answer => (answer.id, answer.outcome.isOk)) =
        [("a", false), ("c", true)] ∧
      (((start 1 1).run crowded).mailbox 2).map (fun answer => (answer.id, answer.outcome.isOk)) =
        [("b", true)] ∧
      ((start 1 1).run crowded).Answers 1 1 :=
  ⟨by decide +kernel, by decide +kernel, by decide +kernel,
    (run_answers (by decide) (by decide) crowded).2⟩

end Workshop

end TextIndex
