import Mathlib.Data.List.Basic
import TextIndex.Index.Publisher

/-!
# The steps of a publisher

What a publisher can do next, with all that is known when it does it. Several of these steps only
shed submissions from the mailbox: those shed are refused or passed over, and everything else about
the submissions stays.

* `Publisher.Serves`: the steps, one by one.
* `Publisher.serves_of_step?`: there are no others.
* `Publisher.Sheds`: what the steps have in common that introduce nothing.
-/

namespace TextIndex

/-- The submission that a message brings. -/
def Message.request? : Message → Option Request
  | introduce request => some request
  | close => none

theorem getElem?_insert_number {ν : Type} (map : Std.ExtTreeMap Nat ν) (id : Nat) (value : ν)
    (other : Nat) :
    (map.insert id value)[other]? = if id = other then some value else map[other]? := by
  rw [Std.ExtTreeMap.getElem?_insert]
  simp only [Nat.compare_eq_eq]

/-- What is held after something else was put there was held before. -/
theorem getElem?_of_insert_number {ν : Type} {map : Std.ExtTreeMap Nat ν} {id other : Nat}
    {value result : ν} (held : (map.insert id value)[other]? = some result)
    (different : value ≠ result) : map[other]? = some result := by
  rw [getElem?_insert_number] at held
  split at held
  · exact absurd (Option.some.inj held) different
  · exact held

namespace Publisher

/-- The submissions in the mailbox. -/
def queued (publisher : Publisher) : List Request :=
  publisher.mailbox.filterMap Message.request?

/-- The next number, given out. -/
def issueNumber (publisher : Publisher) : Publisher :=
  { publisher with issued := publisher.issued + 1 }

/-- What is submitted next, under its number. -/
def nextRequest (publisher : Publisher) (introduction : Introduction) : Request :=
  ⟨publisher.issued + 1, introduction⟩

/-- A submission put into the mailbox under the next number. -/
def enqueue (publisher : Publisher) (introduction : Introduction) : Publisher :=
  { publisher with
    issued := publisher.issued + 1
    mailbox := publisher.mailbox ++ [.introduce (publisher.nextRequest introduction)]
    claims := publisher.claims.insert (publisher.issued + 1) .pending }

/-- A submission to a usable index gets the next number, if there is one, and waits if the publisher
is still there. -/
theorem submit_of_usable {publisher : Publisher} (usable : publisher.failure = none)
    (introduction : Introduction) : publisher.submit introduction =
      if !publisher.hasNumber then (.error (.index .numbersUsedUp), publisher)
      else if publisher.isGone then (.error .closed, publisher.issueNumber)
      else (.ok (publisher.issued + 1), publisher.enqueue introduction) := by
  unfold submit
  split
  · next since unusable =>
    rw [usable] at unusable
    cases unusable
  · rfl

/-- The steps of a publisher. -/
inductive Serves (root : Snapshot) (publisher : Publisher) : Snapshot → Publisher → Prop
  | answers {id : Nat} {verdict : Verdict} (owes : publisher.owed = some (id, verdict)) :
      Serves root publisher root { publisher.answer id verdict with owed := none }
  | introduces {request : Request} {next : Snapshot} {report : IntroductionReport}
      (serving : publisher.phase = .serving) (settled : publisher.owed = none)
      (claimed : publisher.inFlight = some request)
      (introduced : root.introduce request.id request.introduction = .ok (next, report)) :
      Serves root publisher next { publisher with
        inFlight := none
        owed := some (request.id, .ok next.version)
        counters := record publisher.counters next.version report }
  | fails {request : Request} {fault : IntroductionFault}
      (claimed : publisher.inFlight = some request)
      (failed : root.introduce request.id request.introduction = .error fault) :
      Serves root publisher root { publisher with
        inFlight := none
        owed := some (request.id, .error (.index (.introduction fault)))
        failure := some fault
        counters := countRefusal publisher.counters }
  | claims {request : Request} {rest : List Message} (settled : publisher.owed = none)
      (idle : publisher.inFlight = none) (first : publisher.mailbox = .introduce request :: rest)
      (waited : publisher.claims[request.id]? ≠ some .abandoned) :
      Serves root publisher root { publisher with
        mailbox := rest
        claims := publisher.claims.insert request.id .claimed
        inFlight := some request }
  | passesOver {request : Request} {rest : List Message}
      (first : publisher.mailbox = .introduce request :: rest)
      (abandoned : publisher.claims[request.id]? = some .abandoned) :
      Serves root publisher root { publisher with
        mailbox := rest
        counters := { publisher.counters with abandoned := publisher.counters.abandoned + 1 } }
  | refuses {request : Request} {rest : List Message} {since : IntroductionFault}
      (first : publisher.mailbox = .introduce request :: rest)
      (unusable : publisher.failure = some since) :
      Serves root publisher root
        ({ publisher with mailbox := rest }.refuse request.id (.index (.unusable since)))
  | seesClose {rest : List Message} (settled : publisher.owed = none)
      (first : publisher.mailbox = .close :: rest) :
      Serves root publisher root { publisher with mailbox := rest, phase := .draining }
  | drains (draining : publisher.phase = .draining) : Serves root publisher root publisher.drain
  | leaves (leaving : publisher.phase = .leaving) : Serves root publisher root publisher.leave

/-- A message that is received is a submission or a closing message. -/
theorem serves_of_receive? {root : Snapshot} {publisher after : Publisher}
    (settled : publisher.owed = none) (idle : publisher.inFlight = none)
    (received : publisher.receive? = some after) : Serves root publisher root after := by
  unfold receive? at received
  split at received
  · cases received
  · next rest first =>
    cases received
    exact .seesClose settled first
  · next request rest first =>
    cases received
    unfold takeUp
    split
    · next since unusable => exact .refuses first unusable
    · split
      · next abandoned => exact .passesOver first abandoned
      · next waited => exact .claims settled idle first waited

/-- There are no other steps. -/
theorem serves_of_step? {root next : Snapshot} {publisher after : Publisher}
    (stepped : publisher.step? root = some (next, after)) : Serves root publisher next after := by
  unfold step? at stepped
  split at stepped
  · next serving =>
    split at stepped
    · next id verdict owes =>
      cases stepped
      exact .answers owes
    · next request settled claimed =>
      unfold splice at stepped
      split at stepped
      · next introduced =>
        cases stepped
        exact .introduces serving settled claimed introduced
      · next failed =>
        cases stepped
        exact .fails claimed failed
    · next settled idle =>
      obtain ⟨received, isReceived, same⟩ := Option.map_eq_some_iff.mp stepped
      cases same
      exact serves_of_receive? settled idle isReceived
  · next draining =>
    cases stepped
    exact .drains draining
  · next leaving =>
    cases stepped
    exact .leaves leaving
  · cases stepped
  · cases stepped

/-! ### Shedding submissions -/

/-- The first submissions of the mailbox are shed: each may be answered with an error, and nothing
else about submissions changes. -/
structure Sheds (publisher : Publisher) (shed : List Request) (after : Publisher) : Prop where
  queued : publisher.queued = shed ++ after.queued
  issued : after.issued = publisher.issued
  claims : after.claims = publisher.claims
  inFlight : after.inFlight = publisher.inFlight
  owed : after.owed = publisher.owed
  failure : after.failure = publisher.failure
  answers : ∀ id, after.answers[id]? = publisher.answers[id]? ∨
    (∃ request ∈ shed, request.id = id) ∧ ∃ error, after.answers[id]? = some (.error error)

/-- There is a reason to shed submissions: the publisher goes or is told to go, or a submission was
given up. -/
def Disturbed (publisher : Publisher) : Prop :=
  publisher.phase ≠ .serving ∨ .close ∈ publisher.mailbox ∨
    ∃ id : Nat, publisher.claims[id]? = some .abandoned

theorem queued_of_introduce {publisher : Publisher} {request : Request} {rest : List Message}
    (first : publisher.mailbox = .introduce request :: rest) :
    publisher.queued = request :: rest.filterMap Message.request? := by
  unfold queued
  rw [first]
  rfl

theorem queued_of_close {publisher : Publisher} {rest : List Message}
    (first : publisher.mailbox = .close :: rest) :
    publisher.queued = rest.filterMap Message.request? := by
  unfold queued
  rw [first]
  rfl

theorem getElem?_answer (publisher : Publisher) (id : Nat) (verdict : Verdict) (other : Nat) :
    (publisher.answer id verdict).answers[other]? =
      if id = other then some verdict else publisher.answers[other]? :=
  getElem?_insert_number publisher.answers id verdict other

/-- The answers after a mailbox was thrown away. -/
theorem getElem?_foldl_lose (messages : List Message) (publisher : Publisher) (id : Nat) :
    (messages.foldl lose publisher).answers[id]? =
      if ∃ request ∈ messages.filterMap Message.request?, request.id = id then
        some (.error .closed)
      else publisher.answers[id]? := by
  induction messages generalizing publisher with
  | nil => simp
  | cons first rest ih =>
    rw [List.foldl_cons, ih]
    cases first with
    | close => rfl
    | introduce request =>
      show (if _ then _ else (publisher.answer request.id (.error .closed)).answers[id]?) = _
      rw [getElem?_answer]
      by_cases own : request.id = id
      · have among : ∃ other ∈ request :: rest.filterMap Message.request?, other.id = id :=
          ⟨request, List.mem_cons_self, own⟩
        rw [if_pos own, ite_self]
        exact (if_pos among).symm
      · rw [if_neg own]
        refine if_congr ?_ rfl rfl
        show _ ↔ ∃ other ∈ request :: rest.filterMap Message.request?, other.id = id
        rw [List.exists_mem_cons_iff, or_iff_right own]

/-- Losing messages changes nothing but answers. -/
theorem foldl_lose_eq (messages : List Message) (publisher : Publisher) :
    messages.foldl lose publisher =
      { publisher with answers := (messages.foldl lose publisher).answers } := by
  induction messages generalizing publisher with
  | nil => rfl
  | cons first rest ih =>
    rw [List.foldl_cons, ih]
    cases first <;> rfl

theorem sheds_refuse {publisher : Publisher} {request : Request} {rest : List Message}
    (first : publisher.mailbox = .introduce request :: rest) (error : IndexError) :
    publisher.Sheds [request] ({ publisher with mailbox := rest }.refuse request.id error) where
  queued := queued_of_introduce first
  issued := rfl
  claims := rfl
  inFlight := rfl
  owed := rfl
  failure := rfl
  answers := by
    intro id
    have answered := getElem?_answer publisher request.id (.error error) id
    by_cases own : request.id = id
    · rw [if_pos own] at answered
      exact .inr ⟨⟨request, List.mem_singleton_self _, own⟩, error, answered⟩
    · rw [if_neg own] at answered
      exact .inl answered

theorem sheds_passOver {publisher : Publisher} {request : Request} {rest : List Message}
    (first : publisher.mailbox = .introduce request :: rest) (counters : PublishCounters) :
    publisher.Sheds [request] { publisher with mailbox := rest, counters } :=
  ⟨queued_of_introduce first, rfl, rfl, rfl, rfl, rfl, fun _ => .inl rfl⟩

theorem sheds_close {publisher : Publisher} {rest : List Message}
    (first : publisher.mailbox = .close :: rest) (phase : Phase) :
    publisher.Sheds [] { publisher with mailbox := rest, phase } :=
  ⟨queued_of_close first, rfl, rfl, rfl, rfl, rfl, fun _ => .inl rfl⟩

/-- A closing message sheds nothing. -/
theorem sheds_beginClose (publisher : Publisher) : publisher.Sheds [] publisher.beginClose := by
  unfold beginClose
  split
  · exact ⟨rfl, rfl, rfl, rfl, rfl, rfl, fun _ => .inl rfl⟩
  split
  · exact ⟨rfl, rfl, rfl, rfl, rfl, rfl, fun _ => .inl rfl⟩
  · have sameQueue : (publisher.mailbox ++ [Message.close]).filterMap Message.request? =
        publisher.queued := by
      rw [List.filterMap_append]
      exact List.append_nil _
    exact ⟨sameQueue.symm, rfl, rfl, rfl, rfl, rfl, fun _ => .inl rfl⟩

theorem phase_beginClose (publisher : Publisher) :
    publisher.beginClose.phase = publisher.phase := by
  unfold beginClose
  split
  · rfl
  split <;> rfl

theorem sheds_drain (publisher : Publisher) : ∃ shed, publisher.Sheds shed publisher.drain := by
  unfold drain
  split
  · exact ⟨[], rfl, rfl, rfl, rfl, rfl, rfl, fun _ => .inl rfl⟩
  · next rest first => exact ⟨[], sheds_close first publisher.phase⟩
  · next request rest first => exact ⟨[request], sheds_refuse first .closed⟩

theorem sheds_leave (publisher : Publisher) : publisher.Sheds publisher.queued publisher.leave := by
  unfold leave abandonMailbox
  rw [foldl_lose_eq]
  refine ⟨(List.append_nil _).symm, rfl, rfl, rfl, rfl, rfl, fun id => ?_⟩
  have answered := getElem?_foldl_lose publisher.mailbox publisher id
  by_cases lost : ∃ request ∈ publisher.mailbox.filterMap Message.request?, request.id = id
  · rw [if_pos lost] at answered
    exact .inr ⟨lost, _, answered⟩
  · rw [if_neg lost] at answered
    exact .inl answered

end Publisher

end TextIndex
