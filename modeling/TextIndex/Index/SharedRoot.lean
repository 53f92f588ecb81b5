import TextIndex.Index.Publisher

/-!
# Shared roots

Several publishers may work on one root. They are numbered in the order in which they started, and
each numbers its segments for itself, so that an introduction of one may come out of order behind
those of another. While someone else holds the root no publisher can publish: each claims one
submission at most and waits. When the root is released they all go on.

* `SharedRoot.start`: a new publisher, perhaps in place of another.
* `SharedRoot.submit`, `SharedRoot.await`, `SharedRoot.commit`: what writers do.
* `SharedRoot.hold`, `SharedRoot.release`: holding the root.
* `SharedRoot.close`: closing a publisher.
-/

namespace TextIndex

open TextIndex.Time

/-- A root and the publishers that work on it. -/
structure SharedRoot where
  snapshot : Snapshot := .empty
  /-- All publishers that were ever started. -/
  publishers : Array Publisher := #[]
  /-- Whether someone else holds the root. -/
  held : Bool := false
  /-- The publishers whose closing began while the root was held, and whether for the first
  time. -/
  closing : List (Nat × Bool) := []

/-- What a writer keeps of a submission in order to ask for its answer. -/
structure Ticket where
  /-- The number of the publisher. -/
  publisher : Nat
  /-- The number of the segment. -/
  id : Nat
deriving DecidableEq, Repr

/-- A mishap that a commit meets with. -/
inductive Mishap
  /-- The writer's deadline passes after the submission was claimed. -/
  | lateDeadline
  /-- The publisher crashes while it puts the next snapshot together. -/
  | crash
deriving DecidableEq, Repr

namespace SharedRoot

/-- The publisher of the given number. -/
def publisher (shared : SharedRoot) (number : Nat) : Publisher :=
  shared.publishers.getD number .empty

/-- The root with a publisher replaced. -/
def withPublisher (shared : SharedRoot) (number : Nat) (publisher : Publisher) : SharedRoot :=
  { shared with publishers := shared.publishers.setIfInBounds number publisher }

/-- The root when a publisher has done all it can. -/
def settleOne (shared : SharedRoot) (number : Nat) : SharedRoot :=
  let publisher := shared.publisher number
  if shared.held then shared.withPublisher number publisher.settleHeld
  else
    let (snapshot, publisher) := publisher.settle shared.snapshot
    { shared with snapshot }.withPublisher number publisher

/-- The root when its publishers have done all they can. -/
def settle (shared : SharedRoot) : SharedRoot :=
  (List.range shared.publishers.size).foldl settleOne shared

def beginClose (shared : SharedRoot) (number : Nat) : SharedRoot :=
  (shared.withPublisher number (shared.publisher number).beginClose).settle

/-- Start a publisher: its number. One that it takes the place of is closed first, so that what was
submitted to it before is answered. -/
def start (shared : SharedRoot) (replaced : Option Nat) : Nat × SharedRoot :=
  let cleared := match replaced with
    | some number => shared.beginClose number
    | none => shared
  (cleared.publishers.size, { cleared with publishers := cleared.publishers.push .empty })

def submit (shared : SharedRoot) (number : Nat) (introduction : Introduction) :
    Except IndexError Ticket × SharedRoot :=
  let (verdict, publisher) := (shared.publisher number).submit introduction
  (verdict.map fun id => ⟨number, id⟩, (shared.withPublisher number publisher).settle)

/-- What a writer is told that waits, perhaps until a deadline, for its submission. -/
def await (shared : SharedRoot) (ticket : Ticket) (deadline : Option Duration) :
    Verdict × SharedRoot :=
  let publisher := shared.publisher ticket.publisher
  match deadline with
  | none => (publisher.verdict ticket.id, shared)
  | some deadline =>
    let (verdict, publisher) := publisher.expire ticket.id deadline
    (verdict.getD (publisher.verdict ticket.id), shared.withPublisher ticket.publisher publisher)

/-- Submit something to a publisher and wait: the segment's number and the version. Whether it can
be introduced is checked before the next snapshot is put together, so that an introduction which is
out of order fails and crashes nothing. -/
def commit (shared : SharedRoot) (number : Nat) (introduction : Introduction)
    (mishap : Option Mishap) : Except IndexError (Nat × Nat) × SharedRoot :=
  match (shared.publisher number).submit introduction with
  | (.error error, publisher) => (.error error, shared.withPublisher number publisher)
  | (.ok id, submitted) =>
    let claimed := submitted.settleHeld
    let publisher := match mishap with
      | none => submitted
      | some .lateDeadline => (claimed.expire id (Duration.ofMilliseconds 1)).2
      | some .crash =>
        if (shared.snapshot.obstacle? id).isSome then claimed else claimed.crash
    let settled := (shared.withPublisher number publisher).settle
    (((settled.publisher number).verdict id).map fun version => (id, version), settled)

/-- Close a publisher. While the root is held, what that comes to is only known later. -/
def close (shared : SharedRoot) (number : Nat) : Except IndexError Unit × SharedRoot :=
  let first := !(shared.publisher number).closing
  let settled := shared.beginClose number
  if shared.held then (.ok (), { settled with closing := settled.closing ++ [(number, first)] })
  else ((settled.publisher number).closeVerdict first, settled)

def hold (shared : SharedRoot) : SharedRoot :=
  { shared with held := true }

/-- Release the root: what the closings begun meanwhile have come to. -/
def release (shared : SharedRoot) : List (Except IndexError Unit) × SharedRoot :=
  let settled := { shared with held := false, closing := [] }.settle
  (shared.closing.map fun (number, first) => (settled.publisher number).closeVerdict first, settled)

end SharedRoot

end TextIndex
