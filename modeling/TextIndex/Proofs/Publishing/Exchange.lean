import Mathlib.Logic.Function.Basic
import TextIndex.Proofs.Engine.Proposal
import TextIndex.Proofs.Publishing.Service

/-!
# Writers and their publisher

Any number of writers share one publisher. A writer prepares an introduction, looking for the
documents to hide in the root of that moment, submits it, and waits. With a deadline it may wait in
vain, and then it tries to take its submission back: it is told that nothing was introduced in time
if that succeeds, and waits on if the publisher has claimed the submission. Each of these is a step
of its own, between any two of which the others may take any of theirs.

* `Exchange`: the service, the writers, and a record of what was submitted and what was told.
* `Exchange.step`: one step of a writer, of the publisher, or of whoever closes the index.
* `Exchange.run`: any steps in any order.
-/

namespace TextIndex

open TextIndex.Time

/-- How far a writer has come. -/
inductive Writer
  | idle
  | prepared (batch : Batch) (introduction : Introduction)
  | waiting (id : Nat) (deadline : Option Duration)
  /-- Its deadline has passed without an answer. -/
  | overdue (id : Nat) (deadline : Duration)

/-- The number of the submission that a writer waits for. -/
def Writer.id? : Writer → Option Nat
  | idle | prepared _ _ => none
  | waiting id _ | overdue id _ => some id

/-- What a writer put into the mailbox, with the batch that it was prepared from. -/
structure Submission where
  writer : Nat
  batch : Batch
  request : Request

/-- What a writer was told about its submission. -/
structure Telling where
  writer : Nat
  id : Nat
  verdict : Verdict

/-- A service and its writers. -/
structure Exchange where
  service : Service := {}
  writers : Nat → Writer := fun _ => .idle
  /-- What was put into the mailbox, in this order. -/
  submitted : List Submission := []
  told : List Telling := []

/-- Who takes a step, and which. -/
inductive Action
  | prepare (writer : Nat) (batch : Batch)
  | submit (writer : Nat) (deadline : Option Duration)
  /-- Take the answer that was given. -/
  | collect (writer : Nat)
  /-- See that the deadline has passed. -/
  | expire (writer : Nat)
  /-- Try to take the submission back after that. -/
  | abandon (writer : Nat)
  | beginClose
  /-- The publisher does what it does next. -/
  | serve

namespace Exchange

/-- A writer comes to another point. -/
def move (exchange : Exchange) (writer : Nat) (point : Writer) : Exchange :=
  { exchange with writers := Function.update exchange.writers writer point }

theorem writers_move (exchange : Exchange) (writer : Nat) (point : Writer) (other : Nat) :
    (exchange.move writer point).writers other =
      if other = writer then point else exchange.writers other :=
  Function.update_apply _ _ _ _

/-- The publisher with something done to it by a writer. -/
def withPublisher (exchange : Exchange) (publisher : Publisher) : Exchange :=
  { exchange with service := { exchange.service with publisher } }

/-- A writer is told about its submission. -/
def tell (exchange : Exchange) (writer id : Nat) (verdict : Verdict) : Exchange :=
  { exchange.move writer .idle with told := exchange.told ++ [⟨writer, id, verdict⟩] }

/-- An idle writer prepares what its batch introduces into the root that it sees. -/
def prepare (engine : Engine) (exchange : Exchange) (writer : Nat) (batch : Batch) : Exchange :=
  match exchange.writers writer, engine.proposal? exchange.service.root batch with
  | .idle, some introduction => exchange.move writer (.prepared batch introduction)
  | _, _ => exchange

/-- A writer submits what it has prepared. -/
def submit (exchange : Exchange) (writer : Nat) (deadline : Option Duration) : Exchange :=
  match exchange.writers writer with
  | .prepared batch introduction =>
    match exchange.service.publisher.submit introduction with
    | (.ok id, publisher) =>
      { (exchange.withPublisher publisher).move writer (.waiting id deadline) with
        submitted := exchange.submitted ++ [⟨writer, batch, ⟨id, introduction⟩⟩] }
    | (.error _, publisher) => (exchange.withPublisher publisher).move writer .idle
  | _ => exchange

/-- A submission goes on record as it goes into the mailbox. -/
def enqueue (exchange : Exchange) (writer : Nat) (batch : Batch) (introduction : Introduction) :
    Exchange :=
  { exchange.withPublisher (exchange.service.publisher.enqueue introduction) with
    submitted := exchange.submitted ++
      [⟨writer, batch, exchange.service.publisher.nextRequest introduction⟩] }

/-- What becomes of a submission while the index is usable. -/
theorem submit_of_prepared {exchange : Exchange} {writer : Nat} {batch : Batch}
    {introduction : Introduction} (usable : exchange.service.publisher.failure = none)
    (prepared : exchange.writers writer = .prepared batch introduction)
    (deadline : Option Duration) :
    exchange.submit writer deadline =
      if !exchange.service.publisher.hasNumber then exchange.move writer .idle
      else if exchange.service.publisher.isGone then
        (exchange.withPublisher exchange.service.publisher.issueNumber).move writer .idle
      else (exchange.enqueue writer batch introduction).move writer
        (.waiting (exchange.service.publisher.issued + 1) deadline) := by
  unfold submit
  rw [prepared]
  dsimp only
  rw [Publisher.submit_of_usable usable]
  by_cases usedUp : !exchange.service.publisher.hasNumber
  · simp only [if_pos usedUp]
    rfl
  by_cases gone : exchange.service.publisher.isGone
  · simp only [if_neg usedUp, if_pos gone]
  · simp only [if_neg usedUp, if_neg gone]
    rfl

/-- A writer takes the answer that was given. -/
def collect (exchange : Exchange) (writer : Nat) : Exchange :=
  match exchange.writers writer with
  | .waiting id _ =>
    match exchange.service.publisher.answers[id]? with
    | some verdict => exchange.tell writer id verdict
    | none => exchange
  | _ => exchange

/-- A writer sees that its deadline has passed and that there is no answer. -/
def expire (exchange : Exchange) (writer : Nat) : Exchange :=
  match exchange.writers writer with
  | .waiting id (some deadline) =>
    match exchange.service.publisher.answers[id]? with
    | some _ => exchange
    | none => exchange.move writer (.overdue id deadline)
  | _ => exchange

/-- A writer whose deadline has passed takes its submission back, or waits on if it is too late for
that. -/
def abandon (exchange : Exchange) (writer : Nat) : Exchange :=
  match exchange.writers writer with
  | .overdue id deadline =>
    match exchange.service.publisher.giveUp? id with
    | some publisher =>
      (exchange.withPublisher publisher).tell writer id
        (.error (.timeout (.notIntroduced id deadline)))
    | none => exchange.move writer (.waiting id none)
  | _ => exchange

/-- One step. It changes nothing if it cannot be taken. The writers' batches are analyzed as the
given engine does it. -/
def step (engine : Engine) (exchange : Exchange) : Action → Exchange
  | .prepare writer batch => exchange.prepare engine writer batch
  | .submit writer deadline => exchange.submit writer deadline
  | .collect writer => exchange.collect writer
  | .expire writer => exchange.expire writer
  | .abandon writer => exchange.abandon writer
  | .beginClose => exchange.withPublisher exchange.service.publisher.beginClose
  | .serve => { exchange with service := exchange.service.serve }

/-- The steps of a schedule, one after the other. -/
def run (engine : Engine) (exchange : Exchange) (schedule : List Action) : Exchange :=
  schedule.foldl (step engine) exchange

end Exchange

end TextIndex
