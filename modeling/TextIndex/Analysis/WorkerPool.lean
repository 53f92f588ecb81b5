import TextIndex.Analysis.AnalyzedDocument
import TextIndex.Text.Diagnostic

/-!
# Worker pools

A pool of workers analyzes documents. Whoever brings one is let in unless the pool is closed, and
then waits for room: no more documents wait for a worker than the capacity allows. A worker takes
the document that has waited longest, analyzes it and gives exactly one answer, even if the analyzer
crashes. Closing keeps new documents out; those let in before are still analyzed.

* `WorkerPool.enter`, `WorkerPool.admit?`, `WorkerPool.take?`, `WorkerPool.finish?`,
  `WorkerPool.close`: the steps of a pool.
* `WorkerPool.settle`: the pool when everything let in is answered.
* `WorkerPool.analyzeAll`: the answers for the documents of one batch.
-/

namespace TextIndex

open TextIndex.Text

/-- One document to be analyzed. -/
structure Work where
  document : Document
  analyzers : FieldAnalyzers
  withPlaces : Bool

/-- What became of a document. -/
abbrev Outcome := Except IndexError AnalyzedDocument

/-- A fault of an analyzer as it is reported by a pool. A crash is a fault of the analysis. -/
def AnalyzerFault.toError : AnalyzerFault → IndexError
  | failed error => error
  | crashed words => .analysis (.crashed words)

namespace Work

/-- The id that the answer goes under; empty for a document that has none. -/
def id (work : Work) : String :=
  work.document.id.getD ""

def outcome (work : Work) : Outcome :=
  (analyzeDocument work.analyzers work.withPlaces work.document).mapError AnalyzerFault.toError

/-- A piece of work in a diagnostic text. -/
def diagnostic (work : Work) : String :=
  "AnalysisWork \x7b doc_id: " ++
    Diagnostic.optional (work.document.id.map Diagnostic.quoted) ++ " \x7d"

end Work

/-- Work that was let in, under the number that it was given. -/
structure Job where
  ticket : Nat
  work : Work

/-- The one answer to a job. -/
structure Answer where
  ticket : Nat
  id : String
  outcome : Outcome

/-- The answer that a job gets. -/
def Job.answer (job : Job) : Answer :=
  ⟨job.ticket, job.work.id, job.work.outcome⟩

/-- A pool of workers. -/
structure WorkerPool where
  workers : Nat
  /-- How many jobs may wait for a worker. -/
  capacity : Nat
  closed : Bool := false
  /-- The number of jobs let in so far. -/
  issued : Nat := 0
  /-- The jobs that were let in and wait for room. -/
  entering : List Job := []
  /-- The jobs that wait for a worker, the oldest first. -/
  waiting : List Job := []
  /-- The jobs that are being worked on. -/
  busy : List Job := []
  answered : List Answer := []

namespace WorkerPool

/-- A pool with some workers and some room. -/
def start (workers capacity : Nat) : Except IndexError WorkerPool :=
  if workers = 0 then .error (.config .poolWithoutWorkers)
  else if capacity = 0 then .error (.config .poolWithoutCapacity)
  else .ok { workers, capacity }

/-- Let work in, unless the pool is closed. -/
def enter (pool : WorkerPool) (work : Work) : Except IndexError WorkerPool :=
  if pool.closed then .error .closed
  else .ok { pool with
    issued := pool.issued + 1
    entering := pool.entering ++ [⟨pool.issued, work⟩] }

/-- Have a job wait for a worker, if there is room. -/
def admit? (pool : WorkerPool) (ticket : Nat) : Option WorkerPool :=
  if pool.waiting.length < pool.capacity then
    (pool.entering.find? (·.ticket == ticket)).map fun job =>
      { pool with
        entering := pool.entering.filter (·.ticket != ticket)
        waiting := pool.waiting ++ [job] }
  else none

/-- Have a free worker take the job that has waited longest. -/
def take? (pool : WorkerPool) : Option WorkerPool :=
  if pool.busy.length < pool.workers then
    match pool.waiting with
    | job :: waiting => some { pool with waiting, busy := pool.busy ++ [job] }
    | [] => none
  else none

/-- Have a worker finish a job and answer it. -/
def finish? (pool : WorkerPool) (ticket : Nat) : Option WorkerPool :=
  (pool.busy.find? (·.ticket == ticket)).map fun job =>
    { pool with
      busy := pool.busy.filter (·.ticket != ticket)
      answered := pool.answered ++ [job.answer] }

/-- Keep further work out. -/
def close (pool : WorkerPool) : WorkerPool :=
  { pool with closed := true }

/-- The pool when every job let in is answered. -/
def settle (pool : WorkerPool) : WorkerPool :=
  { pool with
    entering := []
    waiting := []
    busy := []
    answered := pool.answered ++
      (pool.busy ++ pool.waiting ++ pool.entering).map Job.answer }

/-- The answers for the documents of one batch, none of which is let in if the pool is closed. -/
def analyzeAll (pool : WorkerPool) (works : List Work) : Except IndexError (List Answer) :=
  (works.foldlM enter pool).map fun entered =>
    entered.settle.answered.filter fun answer => pool.issued ≤ answer.ticket

/-- Bring one document after the other: whether each one is let in, and the answers for those that
are. -/
def perform (pool : WorkerPool) : List Work → List (Except IndexError Unit) × List Answer
  | [] => ([], [])
  | work :: later =>
    let (sent, answers) := perform pool later
    match pool.analyzeAll [work] with
    | .ok answered => (.ok () :: sent, answered ++ answers)
    | .error error => (.error error :: sent, answers)

def diagnostic (pool : WorkerPool) : String :=
  "AnalysisQueue \x7b num_workers: " ++ toString pool.workers ++ ", capacity: " ++
    toString pool.capacity ++ ", closed: " ++ Value.boolText pool.closed ++ " \x7d"

end WorkerPool

end TextIndex
