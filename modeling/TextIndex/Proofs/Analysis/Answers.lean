import Mathlib.Data.List.Basic
import TextIndex.Analysis.WorkerPool

/-!
# The answers of a worker pool

Jobs are numbered as they are let in, so a batch tells its own answers from those of others by their
numbers. However the pool was used before, a batch gets one answer for each of its documents.

* `WorkerPool.Reachable`: the states that a pool can come to.
* `WorkerPool.analyzeAll_eq`: the answers that a batch gets.
-/

namespace TextIndex

namespace WorkerPool

/-- The states that a pool can come to. -/
inductive Reachable : WorkerPool → Prop
  | start {workers capacity : Nat} {pool : WorkerPool}
      (started : WorkerPool.start workers capacity = .ok pool) : Reachable pool
  | enter {pool next : WorkerPool} {work : Work} (earlier : Reachable pool)
      (entered : pool.enter work = .ok next) : Reachable next
  | admits {pool next : WorkerPool} {ticket : Nat} (earlier : Reachable pool)
      (admitted : pool.admit? ticket = some next) : Reachable next
  | take {pool next : WorkerPool} (earlier : Reachable pool) (taken : pool.take? = some next) :
      Reachable next
  | finish {pool next : WorkerPool} {ticket : Nat} (earlier : Reachable pool)
      (finished : pool.finish? ticket = some next) : Reachable next
  | close {pool : WorkerPool} (earlier : Reachable pool) : Reachable pool.close

/-- The numbers of all jobs that are known of. -/
def tickets (pool : WorkerPool) : List Nat :=
  (pool.entering ++ pool.waiting ++ pool.busy).map (·.ticket) ++ pool.answered.map (·.ticket)

/-- All numbers were given out. -/
def Numbered (pool : WorkerPool) : Prop :=
  ∀ ticket ∈ pool.tickets, ticket < pool.issued

/-- A step that makes no job and gives out no number keeps the numbers. -/
theorem Numbered.of_subset {pool next : WorkerPool} (numbered : pool.Numbered)
    (same : next.issued = pool.issued) (subset : ∀ ticket ∈ next.tickets, ticket ∈ pool.tickets) :
    next.Numbered := by
  intro ticket member
  rw [same]
  exact numbered ticket (subset ticket member)

theorem Reachable.numbered {pool : WorkerPool} (reachable : pool.Reachable) : pool.Numbered := by
  induction reachable with
  | @start workers capacity pool started =>
    unfold WorkerPool.start at started
    split at started
    · cases started
    split at started
    · cases started
    cases started
    exact fun ticket member => nomatch member
  | @enter pool next work _ entered ih =>
    unfold WorkerPool.enter at entered
    split at entered
    · cases entered
    cases entered
    intro ticket member
    have known : ticket ∈ pool.tickets ∨ ticket = pool.issued := by
      simp only [tickets, List.map_append, List.mem_append, List.map_cons, List.map_nil,
        List.mem_singleton] at member ⊢
      tauto
    show ticket < pool.issued + 1
    rcases known with before | rfl
    · exact Nat.lt_succ_of_lt (ih ticket before)
    · exact Nat.lt_succ_self _
  | @admits pool next number _ admitted ih =>
    unfold admit? at admitted
    split at admitted
    · obtain ⟨job, found, rfl⟩ := Option.map_eq_some_iff.mp admitted
      refine ih.of_subset rfl fun ticket member => ?_
      have entering := List.mem_of_find?_eq_some found
      simp only [tickets, List.map_append, List.mem_append, List.mem_map, List.mem_filter,
        List.mem_singleton] at member ⊢
      grind
    · cases admitted
  | @take pool next _ taken ih =>
    unfold take? at taken
    split at taken
    · split at taken
      · next job waiting isWaiting =>
        cases taken
        refine ih.of_subset rfl fun ticket member => ?_
        simp only [tickets, isWaiting, List.map_append, List.mem_append, List.map_cons,
          List.map_nil, List.mem_cons, List.not_mem_nil, or_false] at member ⊢
        tauto
      · cases taken
    · cases taken
  | @finish pool next number _ finished ih =>
    obtain ⟨job, found, rfl⟩ := Option.map_eq_some_iff.mp finished
    refine ih.of_subset rfl fun ticket member => ?_
    have busy := List.mem_of_find?_eq_some found
    simp only [tickets, Job.answer, List.map_append, List.mem_append, List.mem_map,
      List.mem_filter, List.mem_singleton] at member ⊢
    grind
  | close _ ih => exact ih

/-- Work under the numbers from the given one on. -/
def jobsFrom (number : Nat) (works : List Work) : List Job :=
  works.mapIdx fun place work => ⟨number + place, work⟩

theorem jobsFrom_cons (number : Nat) (first : Work) (rest : List Work) :
    jobsFrom number (first :: rest) = ⟨number, first⟩ :: jobsFrom (number + 1) rest := by
  unfold jobsFrom
  rw [List.mapIdx_cons]
  simp [Nat.add_comm, Nat.add_left_comm]

/-- An open pool lets everything in. -/
theorem foldlM_enter_of_open {pool : WorkerPool} (isOpen : pool.closed = false)
    (works : List Work) :
    works.foldlM enter pool = .ok { pool with
      issued := pool.issued + works.length
      entering := pool.entering ++ jobsFrom pool.issued works } := by
  induction works generalizing pool with
  | nil => simp [jobsFrom, pure, Except.pure]
  | cons first rest ih =>
    have entered : pool.enter first = .ok { pool with
        issued := pool.issued + 1
        entering := pool.entering ++ [⟨pool.issued, first⟩] } := by
      unfold enter
      rw [isOpen]
      rfl
    rw [List.foldlM_cons, entered]
    refine (@ih { pool with
        issued := pool.issued + 1
        entering := pool.entering ++ [⟨pool.issued, first⟩] } isOpen).trans ?_
    rw [jobsFrom_cons, List.length_cons]
    simp [Nat.add_comm, Nat.add_left_comm]

/-- The answers that a batch is not meant to get, and those that it is. -/
theorem filter_answered {old : List Answer} {issued : Nat}
    (before : ∀ answer ∈ old, answer.ticket < issued) (works : List Work) :
    (old ++ (jobsFrom issued works).map Job.answer).filter (issued ≤ ·.ticket) =
      (jobsFrom issued works).map Job.answer := by
  have noneOld : old.filter (issued ≤ ·.ticket) = [] := by
    refine List.filter_eq_nil_iff.mpr fun answer member => ?_
    have := before answer member
    simp only [decide_eq_true_eq]
    omega
  have allNew : ((jobsFrom issued works).map Job.answer).filter (issued ≤ ·.ticket) =
      (jobsFrom issued works).map Job.answer := by
    refine List.filter_eq_self.mpr fun answer member => ?_
    obtain ⟨job, isJob, rfl⟩ := List.mem_map.mp member
    obtain ⟨place, inside, rfl⟩ := List.mem_mapIdx.mp isJob
    simp [Job.answer]
  rw [List.filter_append, noneOld, allNew, List.nil_append]

/-- A closed pool lets nothing in. -/
theorem foldlM_enter_of_closed {pool : WorkerPool} (isClosed : pool.closed = true)
    {works : List Work} (nonempty : works ≠ []) : works.foldlM enter pool = .error .closed := by
  obtain ⟨first, rest, rfl⟩ := List.exists_cons_of_ne_nil nonempty
  have refused : pool.enter first = .error .closed := by
    unfold enter
    rw [isClosed]
    rfl
  rw [List.foldlM_cons, refused]
  rfl

/-- **A batch gets one answer for each of its documents**, and none of anybody else, unless the pool
is closed. -/
theorem analyzeAll_eq {pool : WorkerPool} (numbered : pool.Numbered) (works : List Work) :
    pool.analyzeAll works =
      if pool.closed ∧ works ≠ [] then .error .closed
      else .ok ((jobsFrom pool.issued works).map Job.answer) := by
  unfold analyzeAll
  have earlier : ∀ answer ∈ pool.answered ++
      (pool.busy ++ pool.waiting ++ pool.entering).map Job.answer,
      answer.ticket < pool.issued := by
    intro answer member
    refine numbered answer.ticket ?_
    unfold tickets
    rcases List.mem_append.mp member with given | due
    · exact List.mem_append_right _ (List.mem_map_of_mem given)
    · obtain ⟨job, isJob, rfl⟩ := List.mem_map.mp due
      refine List.mem_append_left _ (List.mem_map_of_mem ?_)
      simp only [List.mem_append] at isJob ⊢
      tauto
  cases isClosed : pool.closed with
  | true =>
    by_cases nothing : works = []
    · subst nothing
      rw [if_neg (by simp), ← filter_answered earlier []]
      simp [Except.map, settle, pure, Except.pure, jobsFrom]
    · rw [if_pos ⟨rfl, nothing⟩, foldlM_enter_of_closed isClosed nothing]
      rfl
  | false =>
    rw [if_neg (by simp), foldlM_enter_of_open isClosed, ← filter_answered earlier works]
    simp [Except.map, settle]

end WorkerPool

end TextIndex
