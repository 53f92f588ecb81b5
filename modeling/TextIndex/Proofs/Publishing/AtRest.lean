import TextIndex.Proofs.Publishing.Transcript
import TextIndex.Proofs.Snapshot.Evolution

/-!
# A publisher at rest

When nothing else is under way, a publisher takes the first message out of its mailbox. A submission
that somebody waits for is introduced at once: the publisher takes it up, makes the next snapshot of
it and gives the answer. When the mailbox is empty it rests.

* `Publisher.Attentive`: that a publisher is about to look at its mailbox.
* `Publisher.Attentive.leads_introduce`, `Publisher.Attentive.leads_passOver`,
  `Publisher.Attentive.leads_close`: what becomes of the first message in it.
* `Publisher.AtRest`: that there is nothing to do.
* `Publisher.AtRest.settle_enqueue`, `Publisher.AtRest.settle_expire`: what becomes of one
  submission, and of one that is given up.
* `Publisher.AtRest.settle_beginClose`: closing leaves the root as it is.
-/

namespace TextIndex

open TextIndex.Time

namespace Publisher

/-- The publisher serves an index that is usable, and has nothing to do. -/
structure AtRest (publisher : Publisher) : Prop where
  serving : publisher.phase = .serving
  mailbox : publisher.mailbox = []
  inFlight : publisher.inFlight = none
  owed : publisher.owed = none
  usable : publisher.failure = none
  /-- Nothing was answered under a number that is not given out yet. -/
  unanswered : ∀ id, publisher.issued < id → publisher.answers[id]? = none

theorem atRest_empty : empty.AtRest :=
  ⟨rfl, rfl, rfl, rfl, rfl, fun _ _ => Std.ExtTreeMap.getElem?_empty⟩

theorem AtRest.step? {publisher : Publisher} (rests : publisher.AtRest) (root : Snapshot) :
    publisher.step? root = none := by
  unfold Publisher.step? receive?
  rw [rests.serving, rests.owed, rests.inFlight, rests.mailbox]
  rfl

theorem AtRest.isGone {publisher : Publisher} (rests : publisher.AtRest) :
    publisher.isGone = false := by
  unfold Publisher.isGone
  rw [rests.serving]
  rfl

theorem AtRest.submit {publisher : Publisher} (rests : publisher.AtRest)
    (introduction : Introduction) : publisher.submit introduction =
      if publisher.hasNumber then (.ok (publisher.issued + 1), publisher.enqueue introduction)
      else (.error (.index .numbersUsedUp), publisher) := by
  rw [submit_of_usable rests.usable, rests.isGone]
  cases publisher.hasNumber <;> rfl

section Steps

variable {publisher : Publisher} (serving : publisher.phase = .serving)
  (nothingOwed : publisher.owed = none) (root : Snapshot)

include serving nothingOwed

/-- A submission that its writer still waits for is claimed. -/
theorem step?_of_mailbox (idle : publisher.inFlight = none) (usable : publisher.failure = none)
    {request : Request} {rest : List Message}
    (first : publisher.mailbox = .introduce request :: rest)
    (waited : publisher.claims[request.id]? ≠ some .abandoned) :
    publisher.step? root = some (root, { publisher with
      mailbox := rest
      claims := publisher.claims.insert request.id .claimed
      inFlight := some request }) := by
  unfold Publisher.step? receive? takeUp
  rw [serving, nothingOwed, idle, first]
  simp only [usable, waited, if_false, Option.map_some]

/-- A claimed submission is introduced if there is no obstacle. -/
theorem step?_of_inFlight {request : Request} (claimed : publisher.inFlight = some request)
    (free : root.obstacle? request.id = none) :
    publisher.step? root = some (root.next request.id request.introduction, { publisher with
      inFlight := none
      owed := some (request.id, .ok (root.version + 1))
      counters := record publisher.counters (root.version + 1)
        (request.introduction.report root.segments) }) := by
  unfold Publisher.step? splice
  rw [serving, nothingOwed, claimed]
  simp only [Snapshot.introduce_of_free _ free]
  rfl

end Steps

/-- An answer that is decided is given. -/
theorem step?_of_owed {publisher : Publisher} (serving : publisher.phase = .serving)
    (root : Snapshot) {id : Nat} {verdict : Verdict} (owes : publisher.owed = some (id, verdict)) :
    publisher.step? root = some (root, { publisher.answer id verdict with owed := none }) := by
  unfold Publisher.step?
  rw [serving, owes]

/-- The publisher serves a usable index and is about to look at its mailbox. -/
structure Attentive (publisher : Publisher) : Prop where
  serving : publisher.phase = .serving
  inFlight : publisher.inFlight = none
  owed : publisher.owed = none
  usable : publisher.failure = none

/-- Whether a submission was given up by its writer. -/
def isAbandoned (publisher : Publisher) (request : Request) : Bool :=
  publisher.claims[request.id]? == some .abandoned

section Front

variable {root : Snapshot} {publisher : Publisher} {request : Request} {rest : List Message}

/-- The publisher when the first submission in its mailbox is introduced and answered. -/
def afterIntroducing (publisher : Publisher) (root : Snapshot) (request : Request)
    (rest : List Message) : Publisher :=
  { publisher with
    mailbox := rest
    claims := publisher.claims.insert request.id .claimed
    inFlight := none
    owed := none
    answers := publisher.answers.insert request.id (.ok (root.version + 1))
    counters := record publisher.counters (root.version + 1)
      (request.introduction.report root.segments) }

/-- Looking at the mailbox of a usable index shows nothing. -/
theorem Attentive.events_eq (attentive : publisher.Attentive) (root : Snapshot) :
    publisher.events root = [] := by
  unfold events
  simp only [attentive.serving, attentive.owed, attentive.inFlight, attentive.usable]
  split
  · next usable => cases usable
  · rfl

/-- A submission that somebody waits for is claimed, introduced and answered. -/
theorem Attentive.leads_introduce (attentive : publisher.Attentive)
    (first : publisher.mailbox = .introduce request :: rest)
    (waited : publisher.isAbandoned request = false)
    (free : root.obstacle? request.id = none) :
    Leads root publisher 3
      [.introduced request, .answered request.id (.ok (root.version + 1))]
      (root.next request.id request.introduction)
      (publisher.afterIntroducing root request rest) := by
  let claimed : Publisher := { publisher with
    mailbox := rest
    claims := publisher.claims.insert request.id .claimed
    inFlight := some request }
  let spliced : Publisher := { claimed with
    inFlight := none
    owed := some (request.id, .ok (root.version + 1))
    counters := record publisher.counters (root.version + 1)
      (request.introduction.report root.segments) }
  have wanted : publisher.claims[request.id]? ≠ some .abandoned := by
    simpa [isAbandoned] using waited
  have taken : publisher.step? root = some (root, claimed) :=
    step?_of_mailbox attentive.serving attentive.owed root attentive.inFlight attentive.usable first
      wanted
  have introduced : claimed.step? root =
      some (root.next request.id request.introduction, spliced) :=
    @step?_of_inFlight claimed attentive.serving attentive.owed root request rfl free
  have given : spliced.step? (root.next request.id request.introduction) =
      some (root.next request.id request.introduction,
        publisher.afterIntroducing root request rest) :=
    @step?_of_owed spliced attentive.serving _ request.id (.ok (root.version + 1)) rfl
  have shown := (leads_of_step taken).trans ((leads_of_step introduced).trans (leads_of_step given))
  have nothing : publisher.events root = [] := attentive.events_eq root
  have introduction : claimed.events root = [.introduced request] := by
    unfold events
    simp only [show claimed.phase = .serving from attentive.serving,
      show claimed.owed = none from attentive.owed, show claimed.inFlight = some request from rfl,
      Snapshot.introduce_of_free _ free]
  have answer : spliced.events (root.next request.id request.introduction) =
      [.answered request.id (.ok (root.version + 1))] := by
    unfold events
    simp only [show spliced.phase = .serving from attentive.serving,
      show spliced.owed = some (request.id, .ok (root.version + 1)) from rfl]
  rwa [nothing, introduction, answer] at shown

/-- A submission that was given up is passed over. -/
theorem Attentive.leads_passOver (attentive : publisher.Attentive)
    (first : publisher.mailbox = .introduce request :: rest)
    (abandoned : publisher.isAbandoned request = true) :
    Leads root publisher 1 [] root { publisher with
      mailbox := rest
      counters := { publisher.counters with abandoned := publisher.counters.abandoned + 1 } } := by
  have unwanted : publisher.claims[request.id]? = some .abandoned := by
    simpa [isAbandoned] using abandoned
  rw [← attentive.events_eq root]
  apply leads_of_step
  unfold Publisher.step? receive? takeUp
  rw [attentive.serving, attentive.owed, attentive.inFlight, first]
  simp only [attentive.usable, unwanted, if_true, Option.map_some]

/-- A closing message ends the introductions. -/
theorem Attentive.leads_close (attentive : publisher.Attentive)
    (first : publisher.mailbox = .close :: rest) :
    Leads root publisher 1 [] root { publisher with mailbox := rest, phase := .draining } := by
  rw [← attentive.events_eq root]
  apply leads_of_step
  unfold Publisher.step? receive?
  rw [attentive.serving, attentive.owed, attentive.inFlight, first]
  rfl

end Front

theorem AtRest.attentive_enqueue {publisher : Publisher} (rests : publisher.AtRest)
    (introduction : Introduction) : (publisher.enqueue introduction).Attentive :=
  ⟨rests.serving, rests.inFlight, rests.owed, rests.usable⟩

theorem AtRest.mailbox_enqueue {publisher : Publisher} (rests : publisher.AtRest)
    (introduction : Introduction) : (publisher.enqueue introduction).mailbox =
      [.introduce (publisher.nextRequest introduction)] := by
  show publisher.mailbox ++ [.introduce (publisher.nextRequest introduction)] = _
  rw [rests.mailbox, List.nil_append]

theorem claims_enqueue (publisher : Publisher) (introduction : Introduction) :
    (publisher.enqueue introduction).claims[publisher.issued + 1]? = some .pending :=
  Std.ExtTreeMap.getElem?_insert_self

/-- **A single submission is introduced at once**, and answered with the version that it makes. -/
theorem AtRest.settle_enqueue {publisher : Publisher} (rests : publisher.AtRest)
    {introduction : Introduction} {root : Snapshot}
    (free : root.obstacle? (publisher.issued + 1) = none) :
    ∃ after : Publisher, (publisher.enqueue introduction).settle root =
        (root.next (publisher.issued + 1) introduction, after) ∧
      after.verdict (publisher.issued + 1) = .ok (root.version + 1) ∧
      after.issued = publisher.issued + 1 ∧ after.AtRest ∧
      after.counters = record publisher.counters (root.version + 1)
        (introduction.report root.segments) := by
  let request := publisher.nextRequest introduction
  let submitted := publisher.enqueue introduction
  let answered := submitted.afterIntroducing root request []
  have waited : submitted.isAbandoned request = false := by
    show (submitted.claims[publisher.issued + 1]? == _) = _
    rw [publisher.claims_enqueue introduction]
    rfl
  have unanswered : ∀ id, answered.issued < id → answered.answers[id]? = none := by
    intro id (later : publisher.issued + 1 < id)
    show (publisher.answers.insert (publisher.issued + 1) _)[id]? = none
    rw [getElem?_insert_number, if_neg (Nat.ne_of_lt later)]
    exact rests.unanswered id (Nat.lt_of_succ_lt later)
  have rested : answered.AtRest :=
    ⟨rests.serving, rfl, rfl, rfl, rests.usable, unanswered⟩
  have leads := (rests.attentive_enqueue introduction).leads_introduce
    (rests.mailbox_enqueue introduction) waited free
  have enough : 3 ≤ submitted.stepsLeft := by
    unfold stepsLeft
    omega
  exact ⟨answered, (leads.settle enough (rested.step? _)).1, Std.ExtTreeMap.getD_insert_self, rfl,
    rested, rfl⟩

/-- **A single submission whose deadline passes before the publisher turns to it is given up.** Its
number is used up, and the publisher passes it over. -/
theorem AtRest.settle_expire {publisher : Publisher} (rests : publisher.AtRest)
    (introduction : Introduction) (root : Snapshot) (deadline : Duration) :
    ∃ waiting after : Publisher,
      (publisher.enqueue introduction).expire (publisher.issued + 1) deadline =
          (some (.error (.timeout (.notIntroduced (publisher.issued + 1) deadline))), waiting) ∧
        waiting.settle root = (root, after) ∧ after.issued = publisher.issued + 1 ∧
        after.AtRest := by
  let submitted := publisher.enqueue introduction
  let waiting : Publisher := { submitted with
    claims := submitted.claims.insert (publisher.issued + 1) .abandoned }
  let passed : Publisher := { waiting with
    mailbox := []
    counters := { waiting.counters with abandoned := waiting.counters.abandoned + 1 } }
  have givenUp : submitted.giveUp? (publisher.issued + 1) = some waiting := by
    unfold giveUp?
    rw [if_pos (publisher.claims_enqueue introduction)]
  have unanswered : submitted.answers[publisher.issued + 1]? = none :=
    rests.unanswered _ (Nat.lt_succ_self _)
  have expired : submitted.expire (publisher.issued + 1) deadline =
      (some (.error (.timeout (.notIntroduced (publisher.issued + 1) deadline))), waiting) := by
    unfold expire
    rw [unanswered, givenUp]
  have attentive : waiting.Attentive :=
    ⟨rests.serving, rests.inFlight, rests.owed, rests.usable⟩
  have abandoned : waiting.isAbandoned (publisher.nextRequest introduction) = true := by
    show (waiting.claims[publisher.issued + 1]? == _) = _
    rw [Std.ExtTreeMap.getElem?_insert_self]
    rfl
  have rested : passed.AtRest :=
    ⟨rests.serving, rfl, rests.inFlight, rests.owed, rests.usable, fun id later =>
      rests.unanswered id (Nat.lt_of_succ_lt later)⟩
  have leads : Leads root waiting 1 [] root passed :=
    attentive.leads_passOver (rests.mailbox_enqueue introduction) abandoned
  have enough : 1 ≤ waiting.stepsLeft := by
    unfold stepsLeft
    omega
  exact ⟨waiting, passed, expired, (leads.settle enough (rested.step? _)).1, rfl, rested⟩

/-- Closing a publisher that rests introduces nothing and counts nothing. -/
theorem AtRest.settle_beginClose {publisher : Publisher} (rests : publisher.AtRest)
    (root : Snapshot) : (publisher.beginClose.settle root).1 = root ∧
      (publisher.beginClose.settle root).2.counters = publisher.counters := by
  unfold beginClose
  by_cases closing : publisher.closing
  · rw [if_pos closing]
    unfold settle stepsLeft
    rw [run_of_rest (rests.step? root)]
    exact ⟨rfl, rfl⟩
  · rw [if_neg closing, rests.isGone, rests.mailbox]
    -- It sees the closing message, then the empty mailbox, and goes.
    let told : Publisher := { publisher with closing := true, mailbox := [.close] }
    let draining : Publisher := { told with mailbox := [], phase := .draining }
    let leaving : Publisher := { draining with phase := .leaving }
    have seen : told.step? root = some (root, draining) := by
      unfold Publisher.step?
      rw [show told.phase = .serving from rests.serving, show told.owed = none from rests.owed,
        show told.inFlight = none from rests.inFlight]
      rfl
    have drained : draining.step? root = some (root, leaving) := rfl
    have gone : leaving.step? root = some (root, { leaving with phase := .stopped }) := rfl
    show (told.run (7 + 1) root).1 = root ∧ (told.run (7 + 1) root).2.counters = _
    rw [run_of_step seen, run_of_step drained, run_of_step gone, run_of_rest rfl]
    exact ⟨rfl, rfl⟩

end Publisher

end TextIndex
