import Mathlib.Data.List.Nodup
import TextIndex.Proofs.Publishing.AtRest

/-!
# Closing is a clean cut

The first closing message in a publisher's mailbox divides the submissions. Those in front of it are
introduced in their order, unless their writers gave them up, and each is answered with its version.
Those behind it are refused. So no submission is lost between the last introduction and the first
refusal, none is dealt with twice, and the counters account for all of them.

* `Publisher.served`, `Publisher.passedOver`, `Publisher.tooLate`: the submissions by what becomes
  of them.
* `Publisher.Attentive.leads_front`, `Publisher.leads_drain`: what becomes of the submissions in
  front of the first closing message, and of those behind it.
* `Publisher.settle_cutsClean`: what becomes of a mailbox.
-/

namespace TextIndex

namespace Publisher

/-- The submissions in front of the first closing message. -/
def inTime (publisher : Publisher) : List Request :=
  (publisher.mailbox.takeWhile (· ≠ .close)).filterMap Message.request?

/-- The submissions behind the first closing message. -/
def tooLate (publisher : Publisher) : List Request :=
  (publisher.mailbox.dropWhile (· ≠ .close)).filterMap Message.request?

/-- The submissions in front of the first closing message that somebody waits for. -/
def served (publisher : Publisher) : List Request :=
  publisher.inTime.filter (!publisher.isAbandoned ·)

/-- The submissions in front of the first closing message that nobody waits for any more. -/
def passedOver (publisher : Publisher) : List Request :=
  publisher.inTime.filter publisher.isAbandoned

/-- What introducing submissions one after the other shows, from the given version on. -/
def introducing (version : Nat) (requests : List Request) : List Event :=
  (requests.zipIdx (version + 1)).flatMap fun (request, made) =>
    [.introduced request, .answered request.id (.ok made)]

theorem introducing_cons (version : Nat) (request : Request) (rest : List Request) :
    introducing version (request :: rest) =
      [.introduced request, .answered request.id (.ok (version + 1))] ++
        introducing (version + 1) rest :=
  rfl

theorem introducedIn_introducing (version : Nat) (requests : List Request) :
    introducedIn (introducing version requests) = requests := by
  induction requests generalizing version with
  | nil => rfl
  | cons request rest ih =>
    rw [introducing_cons, introducedIn_append, ih]
    rfl

theorem toldIn_introducing_cons (version : Nat) (request : Request) (rest : List Request)
    (id : Nat) : toldIn (introducing version (request :: rest)) id =
      (if request.id = id then [.ok (version + 1)] else []) ++
        toldIn (introducing (version + 1) rest) id := by
  rw [introducing_cons, toldIn_append]
  congr 1
  unfold toldIn
  by_cases own : request.id = id <;> simp [List.filterMap_cons, Event.verdict?, own]

theorem toldIn_introducing_of_not_mem {version : Nat} {requests : List Request} {id : Nat}
    (unknown : id ∉ requests.map (·.id)) : toldIn (introducing version requests) id = [] := by
  induction requests generalizing version with
  | nil => rfl
  | cons request rest ih =>
    rw [List.map_cons, List.mem_cons, not_or] at unknown
    rw [toldIn_introducing_cons, if_neg (Ne.symm unknown.1), ih unknown.2]
    rfl

/-- Each submission is answered once, with the version it comes to. -/
theorem toldIn_introducing {version place : Nat} {requests : List Request} {request : Request}
    (distinct : (requests.map (·.id)).Nodup) (held : requests[place]? = some request) :
    toldIn (introducing version requests) request.id = [.ok (version + (place + 1))] := by
  induction requests generalizing version place with
  | nil => cases held
  | cons first rest ih =>
    rw [List.map_cons, List.nodup_cons] at distinct
    rw [toldIn_introducing_cons]
    cases place with
    | zero =>
      cases held
      rw [if_pos rfl, toldIn_introducing_of_not_mem distinct.1]
      rfl
    | succ place =>
      have member : request.id ∈ rest.map (·.id) :=
        List.mem_map_of_mem (List.mem_of_getElem? held)
      have other : first.id ≠ request.id := fun same => distinct.1 (same ▸ member)
      rw [if_neg other, ih distinct.2 held, Nat.add_right_comm version 1]
      rfl

/-! ### In front of the first closing message -/

/-- What is known when the submissions in front were dealt with: some introduced, the others passed
over. -/
structure Deals (publisher : Publisher) (introduced passed : Nat) (rest : List Message)
    (after : Publisher) : Prop where
  attentive : after.Attentive
  mailbox : after.mailbox = rest
  applied : after.counters.applied = publisher.counters.applied + introduced
  abandoned : after.counters.abandoned = publisher.counters.abandoned + passed
  rejected : after.counters.rejected = publisher.counters.rejected

/-- **The submissions in front of a place in the mailbox are dealt with in their order.** Which of
them were given up stands from the start: the publisher claims each when its turn comes. -/
theorem Attentive.leads_front {publisher : Publisher} {root : Snapshot} {requests : List Request}
    {rest : List Message} {abandoned : Request → Bool} (attentive : publisher.Attentive)
    (front : publisher.mailbox = requests.map .introduce ++ rest)
    (ascending : requests.Pairwise (·.id < ·.id))
    (clear : ∀ request ∈ requests, root.blocking? request.id = none)
    (room : root.version + (requests.filter (!abandoned ·)).length < UInt64.size)
    (known : ∀ request ∈ requests, publisher.isAbandoned request = abandoned request) :
    ∃ steps next after, steps ≤ 3 * requests.length ∧
      Leads root publisher steps
        (introducing root.version (requests.filter (!abandoned ·))) next after ∧
      publisher.Deals (requests.filter (!abandoned ·)).length (requests.filter abandoned).length
        rest after := by
  induction requests generalizing publisher root with
  | nil => exact ⟨0, root, publisher, Nat.le_refl 0, .refl, attentive, front, rfl, rfl, rfl⟩
  | cons request requests ih =>
    obtain ⟨later, ascending⟩ := List.pairwise_cons.mp ascending
    obtain ⟨clearFirst, clear⟩ := List.forall_mem_cons.mp clear
    obtain ⟨knownFirst, known⟩ := List.forall_mem_cons.mp known
    cases gone : abandoned request with
    | false =>
      have kept : (request :: requests).filter (!abandoned ·) =
          request :: requests.filter (!abandoned ·) :=
        List.filter_cons_of_pos (by rw [gone]; rfl)
      have dropped : (request :: requests).filter abandoned = requests.filter abandoned :=
        List.filter_cons_of_neg (by rw [gone]; exact Bool.false_ne_true)
      rw [kept, List.length_cons] at room
      have free : root.obstacle? request.id = none :=
        Snapshot.obstacle?_eq_none.mpr ⟨by omega, clearFirst⟩
      let answered := publisher.afterIntroducing root request (requests.map .introduce ++ rest)
      have leads : Leads root publisher 3 _ _ answered :=
        attentive.leads_introduce front (knownFirst.trans gone) free
      have nextKnown : ∀ other ∈ requests, answered.isAbandoned other = abandoned other := by
        intro other member
        rw [← known other member]
        show ((publisher.claims.insert request.id .claimed)[other.id]? == _) = _
        rw [getElem?_insert_number, if_neg (Nat.ne_of_lt (later other member))]
        rfl
      have nextClear : ∀ other ∈ requests,
          (root.next request.id request.introduction).blocking? other.id = none :=
        fun other member => Snapshot.blocking?_next (clear other member) (later other member) _
      have nextRoom : (root.next request.id request.introduction).version +
          (requests.filter (!abandoned ·)).length < UInt64.size := by
        show root.version + 1 + _ < _
        omega
      obtain ⟨steps, next, after, enough, goesOn, deals⟩ :=
        @ih answered _ ⟨attentive.serving, rfl, rfl, attentive.usable⟩ rfl ascending
          nextClear nextRoom nextKnown
      rw [kept, dropped, introducing_cons]
      refine ⟨3 + steps, next, after, ?_, leads.trans goesOn, deals.attentive, deals.mailbox, ?_,
        deals.abandoned, deals.rejected⟩
      · rw [List.length_cons]
        omega
      · rw [deals.applied, List.length_cons]
        show publisher.counters.applied + 1 + _ = _
        omega
    | true =>
      have dropped : (request :: requests).filter (!abandoned ·) =
          requests.filter (!abandoned ·) :=
        List.filter_cons_of_neg (by rw [gone]; exact Bool.false_ne_true)
      have kept : (request :: requests).filter abandoned =
          request :: requests.filter abandoned :=
        List.filter_cons_of_pos gone
      rw [dropped] at room
      let passed : Publisher := { publisher with
        mailbox := requests.map .introduce ++ rest
        counters := { publisher.counters with abandoned := publisher.counters.abandoned + 1 } }
      have leads : Leads root publisher 1 [] root passed :=
        attentive.leads_passOver front (knownFirst.trans gone)
      obtain ⟨steps, next, after, enough, goesOn, deals⟩ :=
        @ih passed root
          ⟨attentive.serving, attentive.inFlight, attentive.owed, attentive.usable⟩ rfl ascending
          clear room known
      rw [kept, dropped]
      refine ⟨1 + steps, next, after, ?_, leads.trans goesOn, deals.attentive, deals.mailbox,
        deals.applied, ?_, deals.rejected⟩
      · rw [List.length_cons]
        omega
      · rw [deals.abandoned, List.length_cons]
        show publisher.counters.abandoned + 1 + _ = _
        omega

/-! ### Behind the first closing message -/

theorem step?_of_draining {publisher : Publisher} (draining : publisher.phase = .draining)
    (root : Snapshot) : publisher.step? root = some (root, publisher.drain) := by
  unfold step?
  rw [draining]

/-- The publisher about to go, with that many submissions refused. -/
def afterRefusing (publisher : Publisher) (refused : Nat)
    (answers : Std.ExtTreeMap Nat Verdict) : Publisher :=
  { publisher with
    mailbox := []
    phase := .leaving
    answers
    counters := { publisher.counters with rejected := publisher.counters.rejected + refused } }

/-- What is left in the mailbox is refused, one submission after the other. -/
theorem leads_drain (messages : List Message) {publisher : Publisher} (root : Snapshot)
    (draining : publisher.phase = .draining) (left : publisher.mailbox = messages) :
    ∃ answers, Leads root publisher (messages.length + 1)
      ((messages.filterMap Message.request?).map .refused) root
      (publisher.afterRefusing (messages.filterMap Message.request?).length answers) := by
  induction messages generalizing publisher with
  | nil =>
    have leads := leads_of_step (step?_of_draining draining root)
    have shown : publisher.events root = [] := by
      unfold events
      rw [draining, left]
    have drained : publisher.drain = publisher.afterRefusing 0 publisher.answers := by
      unfold drain afterRefusing
      simp only [left]
      rfl
    rw [shown, drained] at leads
    exact ⟨publisher.answers, leads⟩
  | cons first rest ih =>
    have leads := leads_of_step (step?_of_draining draining root)
    rw [List.length_cons, Nat.add_comm]
    cases first with
    | close =>
      have shown : publisher.events root = [] := by
        unfold events
        rw [draining, left]
      have drained : publisher.drain = { publisher with mailbox := rest } := by
        unfold drain
        rw [left]
      rw [shown, drained] at leads
      obtain ⟨answers, goesOn⟩ := @ih { publisher with mailbox := rest } draining rfl
      exact ⟨answers, leads.trans goesOn⟩
    | introduce request =>
      have shown : publisher.events root = [.refused request] := by
        unfold events
        rw [draining, left]
      have drained : publisher.drain =
          { publisher with mailbox := rest }.refuse request.id .closed := by
        unfold drain
        rw [left]
      rw [shown, drained] at leads
      obtain ⟨answers, goesOn⟩ :=
        @ih ({ publisher with mailbox := rest }.refuse request.id .closed) draining rfl
      refine ⟨answers, ?_⟩
      have counted : ({ publisher with mailbox := rest }.refuse request.id .closed).afterRefusing
            (rest.filterMap Message.request?).length answers =
          publisher.afterRefusing (request :: rest.filterMap Message.request?).length answers := by
        unfold afterRefusing
        rw [List.length_cons, Nat.add_comm _ 1, ← Nat.add_assoc]
        rfl
      rw [counted] at goesOn
      exact leads.trans goesOn

/-- **What is behind the first closing message is refused**, and then the publisher goes. -/
theorem Attentive.leads_behind {publisher : Publisher} (attentive : publisher.Attentive)
    (behind : publisher.mailbox = [] ∨ ∃ rest, publisher.mailbox = .close :: rest)
    (root : Snapshot) :
    ∃ steps after, steps ≤ publisher.mailbox.length + 2 ∧
      Leads root publisher steps (publisher.queued.map .refused) root after ∧
      after.step? root = none ∧ after.mailbox = [] ∧ after.failure = none ∧
      after.counters = { publisher.counters with
        rejected := publisher.counters.rejected + publisher.queued.length } := by
  rcases behind with nothing | ⟨rest, closes⟩
  · have noneQueued : publisher.queued = [] := by
      unfold queued
      rw [nothing]
      rfl
    rw [noneQueued]
    have resting : publisher.step? root = .none := by
      unfold Publisher.step? receive?
      rw [attentive.serving, attentive.owed, attentive.inFlight, nothing]
      rfl
    exact ⟨0, publisher, Nat.zero_le _, .refl, resting, nothing, attentive.usable, rfl⟩
  · let draining : Publisher := { publisher with mailbox := rest, phase := .draining }
    obtain ⟨answers, drains⟩ := @leads_drain rest draining root rfl rfl
    let leaving := draining.afterRefusing (rest.filterMap Message.request?).length answers
    have gone : leaving.step? root = some (root, { leaving with phase := .stopped }) := rfl
    have leads := (attentive.leads_close closes).trans (drains.trans (leads_of_step gone))
    have nothingLeft : leaving.events root = [] := rfl
    rw [queued_of_close closes]
    rw [nothingLeft, List.nil_append, List.append_nil] at leads
    refine ⟨_, _, ?_, leads, rfl, rfl, attentive.usable, rfl⟩
    rw [closes, List.length_cons]
    omega

/-! ### The whole mailbox -/

/-- A mailbox holds submissions up to the first closing message, if there is one. -/
theorem exists_front (messages : List Message) :
    ∃ requests : List Request,
      messages.takeWhile (· ≠ .close) = requests.map .introduce ∧
        (messages.dropWhile (· ≠ .close) = [] ∨
          ∃ rest, messages.dropWhile (· ≠ .close) = .close :: rest) := by
  induction messages with
  | nil => exact ⟨[], rfl, .inl rfl⟩
  | cons first rest ih =>
    cases first with
    | close => exact ⟨[], rfl, .inr ⟨rest, rfl⟩⟩
    | introduce request =>
      obtain ⟨requests, front, behind⟩ := ih
      rw [List.takeWhile_cons_of_pos (by simp), List.dropWhile_cons_of_pos (by simp)]
      exact ⟨request :: requests, congrArg (Message.introduce request :: ·) front, behind⟩

theorem inTime_append_tooLate (publisher : Publisher) :
    publisher.inTime ++ publisher.tooLate = publisher.queued := by
  unfold inTime tooLate queued
  rw [← List.filterMap_append, List.takeWhile_append_dropWhile]

/-- How a publisher that was about to look at its mailbox comes to rest. -/
structure Finishes (root : Snapshot) (publisher : Publisher) (last : Snapshot)
    (after : Publisher) : Prop where
  /-- The submissions in time are introduced in their order, each answered at once, and then the
  late ones are refused. -/
  history : publisher.history root =
    introducing root.version publisher.served ++ publisher.tooLate.map .refused
  applied : after.counters.applied = publisher.counters.applied + publisher.served.length
  abandoned : after.counters.abandoned = publisher.counters.abandoned + publisher.passedOver.length
  rejected : after.counters.rejected = publisher.counters.rejected + publisher.tooLate.length
  rests : after.step? last = none
  emptied : after.mailbox = []
  usable : after.failure = none

section Settling

variable {root : Snapshot} {publisher : Publisher}

/-- A publisher comes to rest when it has introduced what is in time and refused what is late. -/
theorem Attentive.finishes (attentive : publisher.Attentive)
    (ascending : publisher.queued.Pairwise (·.id < ·.id))
    (clear : ∀ request ∈ publisher.queued, root.blocking? request.id = none)
    (room : root.version + publisher.served.length < UInt64.size) :
    Finishes root publisher (publisher.settle root).1 (publisher.settle root).2 := by
  obtain ⟨requests, front, behind⟩ := exists_front publisher.mailbox
  have inTime : publisher.inTime = requests := by
    unfold Publisher.inTime
    rw [front, List.filterMap_map]
    exact List.filterMap_some
  have whole : publisher.mailbox =
      requests.map .introduce ++ publisher.mailbox.dropWhile (· ≠ .close) := by
    rw [← front, List.takeWhile_append_dropWhile]
  unfold Publisher.served at room
  rw [inTime] at room
  rw [← inTime_append_tooLate, inTime] at ascending clear
  obtain ⟨steps, next, served, enough, leads, deals⟩ :=
    attentive.leads_front whole (List.pairwise_append.mp ascending).1
      (fun request member => clear request (List.mem_append_left _ member)) room fun _ _ => rfl
  rw [← inTime] at leads deals
  have late : served.queued = publisher.tooLate := by
    unfold queued tooLate
    rw [deals.mailbox]
  obtain ⟨more, after, enoughLeft, goesOn, rests, emptied, usable, counters⟩ :=
    deals.attentive.leads_behind (deals.mailbox ▸ behind) next
  have length : publisher.mailbox.length = requests.length + served.mailbox.length := by
    rw [whole, List.length_append, List.length_map, deals.mailbox]
  obtain ⟨settled, history⟩ := (leads.trans goesOn).settle (by unfold stepsLeft; omega) rests
  rw [settled]
  rw [late] at history counters
  refine ⟨history, ?_, ?_, ?_, rests, emptied, usable⟩
  · rw [counters]
    exact deals.applied
  · rw [counters]
    exact deals.abandoned
  · rw [counters, ← deals.rejected]

end Settling

/-- What has become of the mailbox of a publisher that was about to look at it, when the publisher
has nothing left to do. -/
structure CutsClean (root : Snapshot) (publisher : Publisher) (last : Snapshot)
    (after : Publisher) : Prop extends Finishes root publisher last after where
  introduced : introducedIn (publisher.history root) = publisher.served
  result : publisher.served.foldlM Snapshot.introduceRequest root = .ok last
  told_served : ∀ (place : Nat) (request : Request), publisher.served[place]? = some request →
    toldIn (publisher.history root) request.id = [.ok (root.version + (place + 1))]
  told_passedOver : ∀ request ∈ publisher.passedOver,
    toldIn (publisher.history root) request.id = []
  told_tooLate : ∀ request ∈ publisher.tooLate,
    toldIn (publisher.history root) request.id = [.error .closed]
  answers : ∀ id : Nat, after.answers[id]? =
    (toldIn (publisher.history root) id).getLast?.or publisher.answers[id]?
  complete : (publisher.served ++ publisher.passedOver ++ publisher.tooLate).Perm publisher.queued

/-- **Closing is a clean cut.** A publisher that is about to look at its mailbox introduces, in
their order and each once, the submissions in front of the first closing message that were not given
up, and answers each with its version, as long as there are enough versions. It passes over those
that were given up, refuses those behind the first closing message, and counts them all. -/
theorem settle_cutsClean {root : Snapshot} {publisher : Publisher}
    (attentive : publisher.Attentive)
    (ascending : publisher.queued.Pairwise (·.id < ·.id))
    (clear : ∀ request ∈ publisher.queued, root.blocking? request.id = none)
    (room : root.version + publisher.served.length < UInt64.size) :
    CutsClean root publisher (publisher.settle root).1 (publisher.settle root).2 := by
  have finishes := attentive.finishes ascending clear room
  have history := finishes.history
  have introduced : introducedIn (publisher.history root) = publisher.served := by
    rw [history, introducedIn_append, introducedIn_introducing, introducedIn_refused,
      List.append_nil]
  have distinct : (publisher.inTime.map (·.id) ++ publisher.tooLate.map (·.id)).Nodup := by
    rw [← List.map_append, inTime_append_tooLate]
    exact List.pairwise_map.mpr (ascending.imp Nat.ne_of_lt)
  obtain ⟨distinctInTime, distinctLate, apart⟩ := List.nodup_append.mp distinct
  have sublist : (publisher.served.map (·.id)).Sublist (publisher.inTime.map (·.id)) :=
    List.filter_sublist.map _
  refine ⟨finishes, introduced, ?_, ?_, ?_, ?_, answers_run _ root publisher, ?_⟩
  · rw [← introduced]
    exact root_run _ root publisher
  · intro place request held
    have inTime : request ∈ publisher.inTime := (List.mem_filter.mp (List.mem_of_getElem? held)).1
    rw [history, toldIn_append, toldIn_introducing (distinctInTime.sublist sublist) held,
      toldIn_refused, List.count_eq_zero.mpr fun late =>
        apart _ (List.mem_map_of_mem inTime) _ late rfl]
    rfl
  · intro request member
    obtain ⟨inTime, abandoned⟩ := List.mem_filter.mp member
    have unserved : request.id ∉ publisher.served.map (·.id) := by
      intro served
      obtain ⟨other, isServed, same⟩ := List.mem_map.mp served
      have waited := (List.mem_filter.mp isServed).2
      unfold isAbandoned at waited abandoned
      rw [same, abandoned] at waited
      cases waited
    rw [history, toldIn_append, toldIn_introducing_of_not_mem unserved, toldIn_refused,
      List.count_eq_zero.mpr fun late => apart _ (List.mem_map_of_mem inTime) _ late rfl]
    rfl
  · intro request member
    have late := List.mem_map_of_mem (f := (·.id)) member
    have unserved : request.id ∉ publisher.served.map (·.id) := fun served =>
      apart _ (sublist.subset served) _ late rfl
    rw [history, toldIn_append, toldIn_introducing_of_not_mem unserved, toldIn_refused,
      List.count_eq_one_of_mem distinctLate late]
    rfl
  · rw [← inTime_append_tooLate]
    exact (List.perm_append_comm.trans
      (List.filter_append_perm publisher.isAbandoned publisher.inTime)).append_right _

/-- A publisher that was closed between the third and the fourth submission. The second one was
given up. -/
def closedBetween : Publisher :=
  let submitted := ["a", "b", "a"].foldl (fun publisher id =>
    (publisher.submit (Snapshot.putting id)).2) empty
  (((submitted.giveUp? 2).getD submitted).beginClose.submit (Snapshot.putting "b")).2

theorem settle_cutsClean_closedBetween :
    closedBetween.Attentive ∧ closedBetween.queued.Pairwise (·.id < ·.id) ∧
      (∀ request ∈ closedBetween.queued, Snapshot.empty.blocking? request.id = none) ∧
      Snapshot.empty.version + closedBetween.served.length < UInt64.size ∧
      closedBetween.served.map (·.id) = [1, 3] ∧ closedBetween.passedOver.map (·.id) = [2] ∧
      closedBetween.tooLate.map (·.id) = [4] ∧
      CutsClean .empty closedBetween (closedBetween.settle .empty).1
        (closedBetween.settle .empty).2 := by
  have attentive : closedBetween.Attentive :=
    ⟨by decide +kernel, by decide +kernel, by decide +kernel, by decide +kernel⟩
  have ascending : closedBetween.queued.Pairwise (·.id < ·.id) := by decide +kernel
  have clear : ∀ request ∈ closedBetween.queued, Snapshot.empty.blocking? request.id = none := by
    decide +kernel
  have room : Snapshot.empty.version + closedBetween.served.length < UInt64.size := by
    decide +kernel
  exact ⟨attentive, ascending, clear, room, by decide +kernel, by decide +kernel,
    by decide +kernel, settle_cutsClean attentive ascending clear room⟩

end Publisher

end TextIndex
