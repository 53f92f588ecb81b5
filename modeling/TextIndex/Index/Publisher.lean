import TextIndex.Index.Snapshot
import TextIndex.Text.Diagnostic

/-!
# Publishing

A publisher introduces segments one after the other. Writers submit what they want introduced and
get the number of their segment; the submissions wait in a mailbox, in order of these numbers. The
publisher takes the first one, claims it, makes the next snapshot, publishes it as the new root and
answers with its version. A writer whose deadline passes abandons its submission, unless it is
claimed by then. What comes before a closing message is still introduced, the rest is refused.

* `Publisher.submit`, `Publisher.expire`, `Publisher.beginClose`: what writers do.
* `Publisher.step?`: what the publisher does next.
* `Publisher.settle`: the root and the publisher when it has nothing left to do.
-/

namespace TextIndex

open TextIndex.Text TextIndex.Time

/-- Something to introduce, under the number of its segment. -/
structure Request where
  id : Nat
  introduction : Introduction
deriving DecidableEq

/-- What is in a publisher's mailbox. -/
inductive Message
  | introduce (request : Request)
  | close
deriving DecidableEq

/-- Whose turn it is to decide on a submission. -/
inductive Claim
  | pending
  | claimed
  | abandoned
deriving DecidableEq, Repr

/-- How far a publisher has come. -/
inductive Phase
  | serving
  /-- It has seen a closing message and refuses what is left. -/
  | draining
  /-- It has seen an empty mailbox after that and is about to go. -/
  | leaving
  | stopped
  | crashed
deriving DecidableEq, Repr

/-- What a submission was answered. -/
abbrev Verdict := Except IndexError Nat

/-- What is counted of introductions. -/
structure PublishCounters where
  applied : Nat := 0
  rejected : Nat := 0
  /-- The introductions that nobody waited for any more. -/
  abandoned : Nat := 0
  /-- The segments that were looked through for documents to hide. -/
  recomputed : Nat := 0
  /-- The documents that became hidden. -/
  obsoleted : Nat := 0
  /-- The highest version that was published. -/
  version : Nat := 0
deriving DecidableEq, Repr, Inhabited

/-- A publisher. -/
structure Publisher where
  /-- The last segment number given out. -/
  issued : Nat := 0
  mailbox : List Message := []
  claims : Std.ExtTreeMap Nat Claim := ∅
  /-- The submission that is claimed and not introduced yet. -/
  inFlight : Option Request := none
  /-- The answer that is decided and not given yet, with the number of its submission. -/
  owed : Option (Nat × Verdict) := none
  /-- The answers by segment number. -/
  answers : Std.ExtTreeMap Nat Verdict := ∅
  phase : Phase := .serving
  /-- The introduction that failed and left the index unusable. -/
  failure : Option IntroductionFault := none
  /-- Whether closing has begun. -/
  closing : Bool := false
  counters : PublishCounters := {}

namespace Publisher

/-- The publisher of an index that was just opened. -/
def empty : Publisher := {}

instance : Inhabited Publisher := ⟨empty⟩

/-- Whether nobody reads the mailbox any more. -/
def isGone (publisher : Publisher) : Bool :=
  publisher.phase == .stopped || publisher.phase == .crashed

/-- Whether there is a number left for one more segment. Segment numbers are words of 64 bits. -/
def hasNumber (publisher : Publisher) : Bool :=
  publisher.issued + 1 < UInt64.size

/-- Submit something to introduce and get the number of its segment. A number that was given out is
used up even if the publisher is gone. -/
def submit (publisher : Publisher) (introduction : Introduction) : Verdict × Publisher :=
  match publisher.failure with
  | some since => (.error (.index (.unusable since)), publisher)
  | none =>
    let id := publisher.issued + 1
    if !publisher.hasNumber then (.error (.index .numbersUsedUp), publisher)
    else if publisher.isGone then (.error .closed, { publisher with issued := id })
    else
      (.ok id, { publisher with
        issued := id
        mailbox := publisher.mailbox ++ [.introduce ⟨id, introduction⟩]
        claims := publisher.claims.insert id .pending })

/-- Put a closing message into the mailbox, the first time only. -/
def beginClose (publisher : Publisher) : Publisher :=
  if publisher.closing then publisher
  else if publisher.isGone then { publisher with closing := true }
  else { publisher with closing := true, mailbox := publisher.mailbox ++ [.close] }

/-- The publisher with a submission abandoned, if it is still its writer's to abandon. -/
def giveUp? (publisher : Publisher) (id : Nat) : Option Publisher :=
  if publisher.claims[id]? = some .pending then
    some { publisher with claims := publisher.claims.insert id .abandoned }
  else none

/-- What a writer is told when its deadline passes: the answer, if there is one, or that nothing was
introduced in time, if the submission is still its own to abandon. Otherwise it waits on. -/
def expire (publisher : Publisher) (id : Nat) (deadline : Duration) :
    Option Verdict × Publisher :=
  match publisher.answers[id]? with
  | some verdict => (some verdict, publisher)
  | none =>
    match publisher.giveUp? id with
    | some publisher => (some (.error (.timeout (.notIntroduced id deadline))), publisher)
    | none => (none, publisher)

/-- The publisher with an answer given. -/
def answer (publisher : Publisher) (id : Nat) (verdict : Verdict) : Publisher :=
  { publisher with answers := publisher.answers.insert id verdict }

/-- Count a submission that is refused. -/
def countRefusal (counters : PublishCounters) : PublishCounters :=
  { counters with rejected := counters.rejected + 1 }

/-- Answer a submission that is refused. -/
def refuse (publisher : Publisher) (id : Nat) (error : IndexError) : Publisher :=
  { publisher.answer id (.error error) with counters := countRefusal publisher.counters }

/-- Take up a submission: refuse it if the index is unusable, pass over it if it is abandoned, and
otherwise claim it. -/
def takeUp (publisher : Publisher) (request : Request) : Publisher :=
  match publisher.failure with
  | some since => publisher.refuse request.id (.index (.unusable since))
  | none =>
    if publisher.claims[request.id]? = some .abandoned then
      { publisher with
        counters := { publisher.counters with abandoned := publisher.counters.abandoned + 1 } }
    else
      { publisher with
        claims := publisher.claims.insert request.id .claimed
        inFlight := some request }

/-- Take the first message out of the mailbox, if there is one. -/
def receive? (publisher : Publisher) : Option Publisher :=
  match publisher.mailbox with
  | [] => none
  | .close :: rest => some { publisher with mailbox := rest, phase := .draining }
  | .introduce request :: rest => some ({ publisher with mailbox := rest }.takeUp request)

/-- Count an introduction that came to the given snapshot. -/
def record (counters : PublishCounters) (version : Nat) (report : IntroductionReport) :
    PublishCounters :=
  { counters with
    applied := counters.applied + 1
    recomputed := counters.recomputed + report.recomputed
    obsoleted := counters.obsoleted + report.obsoleted
    version := max counters.version version }

/-- Introduce a claimed submission and publish the snapshot. The answer is given afterwards. An
introduction that fails leaves the index unusable. -/
def splice (publisher : Publisher) (root : Snapshot) (request : Request) : Snapshot × Publisher :=
  match root.introduce request.id request.introduction with
  | .ok (next, report) =>
    (next, { publisher with
      inFlight := none
      owed := some (request.id, .ok next.version)
      counters := record publisher.counters next.version report })
  | .error fault =>
    (root, { publisher with
      inFlight := none
      owed := some (request.id, .error (.index (.introduction fault)))
      failure := some fault
      counters := countRefusal publisher.counters })

/-- Refuse the first submission left in the mailbox, or see that there is none. -/
def drain (publisher : Publisher) : Publisher :=
  match publisher.mailbox with
  | [] => { publisher with phase := .leaving }
  | .close :: rest => { publisher with mailbox := rest }
  | .introduce request :: rest => { publisher with mailbox := rest }.refuse request.id .closed

/-- The publisher with a message lost, which its writer takes for a refusal. -/
def lose (publisher : Publisher) : Message → Publisher
  | .close => publisher
  | .introduce request => publisher.answer request.id (.error .closed)

def abandonMailbox (publisher : Publisher) : Publisher :=
  { publisher.mailbox.foldl lose publisher with mailbox := [] }

/-- Go. What reached the mailbox at the last moment is lost. -/
def leave (publisher : Publisher) : Publisher :=
  { publisher.abandonMailbox with phase := .stopped }

/-- Crash. The submission that is being dealt with and everything in the mailbox are lost. -/
def crash (publisher : Publisher) : Publisher :=
  let lost := match publisher.owed, publisher.inFlight with
    | some (id, _), _ => publisher.answer id (.error .closed)
    | none, some request => publisher.answer request.id (.error .closed)
    | none, none => publisher
  { lost.abandonMailbox with inFlight := none, owed := none, phase := .crashed }

/-- What the publisher does next, if there is anything to do. -/
def step? (root : Snapshot) (publisher : Publisher) : Option (Snapshot × Publisher) :=
  match publisher.phase with
  | .serving =>
    match publisher.owed, publisher.inFlight with
    | some (id, verdict), _ => some (root, { publisher.answer id verdict with owed := none })
    | none, some request => some (publisher.splice root request)
    | none, none => publisher.receive?.map fun next => (root, next)
  | .draining => some (root, publisher.drain)
  | .leaving => some (root, publisher.leave)
  | .stopped | .crashed => none

/-- A number of steps that is enough for the publisher to come to rest. -/
def stepsLeft (publisher : Publisher) : Nat :=
  3 * publisher.mailbox.length + 5

/-- Up to the given number of steps. -/
def run : Nat → Snapshot → Publisher → Snapshot × Publisher
  | 0, root, publisher => (root, publisher)
  | steps + 1, root, publisher =>
    match publisher.step? root with
    | some (next, publisher) => run steps next publisher
    | none => (root, publisher)

/-- The root and the publisher when it has nothing left to do. -/
def settle (root : Snapshot) (publisher : Publisher) : Snapshot × Publisher :=
  publisher.run publisher.stepsLeft root

/-- Up to the given number of steps that do not need the root. -/
def runHeld : Nat → Publisher → Publisher
  | 0, publisher => publisher
  | steps + 1, publisher =>
    if publisher.phase = .serving ∧ publisher.inFlight.isSome then publisher
    else match publisher.step? .empty with
      | some (_, publisher) => runHeld steps publisher
      | none => publisher

/-- The publisher when it cannot go on without the root, which is held by someone else. -/
def settleHeld (publisher : Publisher) : Publisher :=
  publisher.runHeld publisher.stepsLeft

/-- What a writer that waits without a deadline is told when the publisher has come to rest. -/
def verdict (publisher : Publisher) (id : Nat) : Verdict :=
  publisher.answers.getD id (.error .closed)

/-- What closing comes to when the publisher has come to rest: the first time, whether it
crashed. -/
def closeVerdict (first : Bool) (publisher : Publisher) : Except IndexError Unit :=
  if first ∧ publisher.phase = .crashed then .error (.internal .publisherCrashed) else .ok ()

/-- Why the index is unusable, if it is. -/
def failureText? (publisher : Publisher) : Option String :=
  publisher.failure.map fun fault => (IndexError.index (.introduction fault)).message

def diagnostic (publisher : Publisher) : String :=
  "Introducer \x7b next_segment_id: " ++ toString publisher.issued ++ ", running: " ++
    Value.boolText (!publisher.closing) ++ ", failure: " ++
    Diagnostic.optional (publisher.failureText?.map Diagnostic.quoted) ++ " \x7d"

end Publisher

end TextIndex
