import Mathlib.Data.List.Basic
import TextIndex.Proofs.Publishing.Steps

/-!
# What a publisher does, step by step

A run of a publisher shows in two kinds of events: submissions are introduced, and submissions are
answered. The events of a run in their order are its transcript. It leaves nothing out: the root at
the end is what comes of the introductions, and the answers at the end are the last ones given.

* `Publisher.events`: what the next step shows.
* `Publisher.transcript`: what a run shows.
* `Publisher.root_run`, `Publisher.answers_run`: the transcript tells the root and the answers.
* `Publisher.Leads`: that so many steps lead from one state to another, and what they show.
-/

namespace TextIndex

/-- What a publisher does that others notice. -/
inductive Event
  | introduced (request : Request)
  | answered (id : Nat) (verdict : Verdict)

namespace Event

/-- The submission that is introduced. -/
def introduction? : Event → Option Request
  | introduced request => some request
  | answered _ _ => none

/-- What the submission of the given number is answered. -/
def verdict? (id : Nat) : Event → Option Verdict
  | introduced _ => none
  | answered other verdict => if other = id then some verdict else none

/-- A submission is answered that the index is closed. -/
def refused (request : Request) : Event :=
  answered request.id (.error .closed)

end Event

/-- The submissions introduced in a transcript. -/
def introducedIn (events : List Event) : List Request :=
  events.filterMap Event.introduction?

/-- What the submission of the given number is answered in a transcript. -/
def toldIn (events : List Event) (id : Nat) : List Verdict :=
  events.filterMap (Event.verdict? id)

theorem introducedIn_append (first second : List Event) :
    introducedIn (first ++ second) = introducedIn first ++ introducedIn second :=
  List.filterMap_append

theorem toldIn_append (first second : List Event) (id : Nat) :
    toldIn (first ++ second) id = toldIn first id ++ toldIn second id :=
  List.filterMap_append

theorem introducedIn_refused (requests : List Request) :
    introducedIn (requests.map .refused) = [] := by
  unfold introducedIn
  rw [List.filterMap_map]
  exact List.filterMap_eq_nil_iff.mpr fun _ _ => rfl

theorem toldIn_refused (requests : List Request) (id : Nat) :
    toldIn (requests.map .refused) id =
      List.replicate ((requests.map (·.id)).count id) (.error .closed) := by
  induction requests with
  | nil => rfl
  | cons request rest ih =>
    unfold toldIn at *
    rw [List.map_cons, List.map_cons, List.filterMap_cons, ih, List.count_cons]
    by_cases own : request.id = id <;>
      simp [Event.refused, Event.verdict?, own, List.replicate_succ]

/-- The snapshot that follows when a submission is introduced. -/
def Snapshot.introduceRequest (snapshot : Snapshot) (request : Request) :
    Except IntroductionFault Snapshot :=
  (snapshot.introduce request.id request.introduction).map Prod.fst

namespace Publisher

/-- What the publisher's next step shows. -/
def events (root : Snapshot) (publisher : Publisher) : List Event :=
  match publisher.phase with
  | .serving =>
    match publisher.owed, publisher.inFlight with
    | some (id, verdict), _ => [.answered id verdict]
    | none, some request =>
      match root.introduce request.id request.introduction with
      | .ok _ => [.introduced request]
      | .error _ => []
    | none, none =>
      match publisher.mailbox, publisher.failure with
      | .introduce request :: _, some since =>
        [.answered request.id (.error (.index (.unusable since)))]
      | _, _ => []
  | .draining =>
    match publisher.mailbox with
    | .introduce request :: _ => [.refused request]
    | _ => []
  | .leaving => publisher.queued.map .refused
  | .stopped | .crashed => []

/-- What up to the given number of steps show. -/
def transcript : Nat → Snapshot → Publisher → List Event
  | 0, _, _ => []
  | steps + 1, root, publisher =>
    match publisher.step? root with
    | some (next, after) => publisher.events root ++ after.transcript steps next
    | none => []

/-- What the publisher does until it has nothing left to do. -/
def history (root : Snapshot) (publisher : Publisher) : List Event :=
  publisher.transcript publisher.stepsLeft root

theorem run_of_step {steps : Nat} {root next : Snapshot} {publisher after : Publisher}
    (stepped : publisher.step? root = some (next, after)) :
    publisher.run (steps + 1) root = after.run steps next := by
  rw [run, stepped]

theorem run_of_rest {steps : Nat} {root : Snapshot} {publisher : Publisher}
    (resting : publisher.step? root = none) : publisher.run steps root = (root, publisher) := by
  cases steps with
  | zero => rfl
  | succ => rw [run, resting]

theorem transcript_of_step {steps : Nat} {root next : Snapshot} {publisher after : Publisher}
    (stepped : publisher.step? root = some (next, after)) :
    publisher.transcript (steps + 1) root =
      publisher.events root ++ after.transcript steps next := by
  rw [transcript, stepped]

theorem transcript_of_rest {steps : Nat} {root : Snapshot} {publisher : Publisher}
    (resting : publisher.step? root = none) : publisher.transcript steps root = [] := by
  cases steps with
  | zero => rfl
  | succ => rw [transcript, resting]

/-! ### The transcript leaves nothing out -/

/-- What a step can show, with what it does to the root and the answers. -/
inductive Shows (root : Snapshot) (publisher : Publisher) :
    List Event → Snapshot → Publisher → Prop
  | nothing {after : Publisher} (same : after.answers = publisher.answers) :
      Shows root publisher [] root after
  | answers {id : Nat} {verdict : Verdict} {after : Publisher}
      (given : after.answers = publisher.answers.insert id verdict) :
      Shows root publisher [.answered id verdict] root after
  | introduces {request : Request} {next : Snapshot} {after : Publisher}
      (introduced : root.introduceRequest request = .ok next)
      (same : after.answers = publisher.answers) :
      Shows root publisher [.introduced request] next after
  | leaves : Shows root publisher (publisher.queued.map .refused) root publisher.leave

theorem shows_receive {root : Snapshot} {publisher after : Publisher}
    (serving : publisher.phase = .serving) (settled : publisher.owed = none)
    (idle : publisher.inFlight = none) (received : publisher.receive? = some after) :
    Shows root publisher (publisher.events root) root after := by
  unfold receive? at received
  unfold events
  simp only [serving, settled, idle]
  split at received
  · cases received
  · next rest first =>
    cases received
    rw [first]
    exact .nothing rfl
  · next request rest first =>
    cases received
    unfold takeUp
    cases failed : publisher.failure with
    | some since =>
      rw [first]
      exact .answers rfl
    | none =>
      rw [first]
      refine .nothing ?_
      show Publisher.answers (if _ then _ else _) = _
      split <;> rfl

/-- Each step shows one of these. -/
theorem shows_of_step? {root next : Snapshot} {publisher after : Publisher}
    (stepped : publisher.step? root = some (next, after)) :
    Shows root publisher (publisher.events root) next after := by
  unfold step? at stepped
  cases phase : publisher.phase with
  | serving =>
    simp only [phase] at stepped
    cases owed : publisher.owed with
    | some owes =>
      simp only [owed] at stepped
      cases stepped
      unfold events
      simp only [phase, owed]
      exact .answers rfl
    | none =>
      cases inFlight : publisher.inFlight with
      | some request =>
        simp only [owed, inFlight] at stepped
        unfold splice at stepped
        unfold events
        simp only [phase, owed, inFlight]
        cases result : root.introduce request.id request.introduction with
        | ok introduced =>
          simp only [result] at stepped
          cases stepped
          refine .introduces ?_ rfl
          unfold Snapshot.introduceRequest
          rw [result]
          rfl
        | error fault =>
          simp only [result] at stepped
          cases stepped
          exact .nothing rfl
      | none =>
        simp only [owed, inFlight] at stepped
        obtain ⟨received, isReceived, same⟩ := Option.map_eq_some_iff.mp stepped
        cases same
        exact shows_receive phase owed inFlight isReceived
  | draining =>
    simp only [phase] at stepped
    cases stepped
    unfold events drain
    simp only [phase]
    cases publisher.mailbox with
    | nil => exact .nothing rfl
    | cons first rest =>
      cases first with
      | close => exact .nothing rfl
      | introduce request => exact .answers rfl
  | leaving =>
    simp only [phase] at stepped
    cases stepped
    unfold events
    simp only [phase]
    exact .leaves
  | stopped => simp only [phase] at stepped; cases stepped
  | crashed => simp only [phase] at stepped; cases stepped

section Shown

variable {root next : Snapshot} {publisher after : Publisher} {events : List Event}

/-- The root changes by the introductions that a step shows. -/
theorem Shows.root_eq (shown : Shows root publisher events next after) :
    (introducedIn events).foldlM Snapshot.introduceRequest root = .ok next := by
  cases shown with
  | nothing => rfl
  | answers => rfl
  | introduces introduced =>
    show (root.introduceRequest _ >>= fun second => pure second) = _
    rw [introduced]
    rfl
  | leaves =>
    rw [introducedIn_refused]
    rfl

/-- The answers change by those that a step shows. -/
theorem Shows.answers_eq (shown : Shows root publisher events next after) (id : Nat) :
    after.answers[id]? = (toldIn events id).getLast?.or publisher.answers[id]? := by
  cases shown with
  | nothing same => rw [same]; rfl
  | introduces introduced same => rw [same]; rfl
  | @answers other verdict _ given =>
    rw [given, getElem?_insert_number]
    by_cases own : other = id <;> simp [toldIn, Event.verdict?, own]
  | leaves =>
    rw [toldIn_refused]
    unfold leave abandonMailbox
    rw [foldl_lose_eq]
    show (publisher.mailbox.foldl lose publisher).answers[id]? = _
    rw [getElem?_foldl_lose, List.getLast?_replicate]
    have lost : (∃ request ∈ publisher.queued, request.id = id) ↔
        (publisher.queued.map (·.id)).count id ≠ 0 := by
      rw [Nat.ne_zero_iff_zero_lt, List.count_pos_iff, List.mem_map]
    unfold queued at lost
    by_cases left : (publisher.queued.map (·.id)).count id = 0
    · rw [if_neg fun isLost => lost.mp isLost left, if_pos left]
      rfl
    · rw [if_pos (lost.mpr left), if_neg left]
      rfl

end Shown

/-- **The root after a run is what comes of the introductions in its transcript.** -/
theorem root_run (steps : Nat) (root : Snapshot) (publisher : Publisher) :
    (introducedIn (publisher.transcript steps root)).foldlM Snapshot.introduceRequest root =
      .ok (publisher.run steps root).1 := by
  induction steps generalizing root publisher with
  | zero => rfl
  | succ steps ih =>
    cases stepped : publisher.step? root with
    | none =>
      rw [run_of_rest stepped, transcript_of_rest stepped]
      rfl
    | some state =>
      obtain ⟨next, after⟩ := state
      rw [run_of_step stepped, transcript_of_step stepped, introducedIn_append, List.foldlM_append,
        (shows_of_step? stepped).root_eq]
      exact ih next after

/-- **The answers after a run are the last ones in its transcript**, and otherwise those from
before. -/
theorem answers_run (steps : Nat) (root : Snapshot) (publisher : Publisher) (id : Nat) :
    (publisher.run steps root).2.answers[id]? =
      (toldIn (publisher.transcript steps root) id).getLast?.or publisher.answers[id]? := by
  induction steps generalizing root publisher with
  | zero => rfl
  | succ steps ih =>
    cases stepped : publisher.step? root with
    | none =>
      rw [run_of_rest stepped, transcript_of_rest stepped]
      rfl
    | some state =>
      obtain ⟨next, after⟩ := state
      rw [run_of_step stepped, transcript_of_step stepped, toldIn_append, ih next after,
        (shows_of_step? stepped).answers_eq, List.getLast?_append, Option.or_assoc]

/-! ### Several steps at once -/

/-- So many steps lead from one state to another, and show these events. -/
def Leads (root : Snapshot) (publisher : Publisher) (steps : Nat) (events : List Event)
    (next : Snapshot) (after : Publisher) : Prop :=
  ∀ more, publisher.run (steps + more) root = after.run more next ∧
    publisher.transcript (steps + more) root = events ++ after.transcript more next

section Leads

variable {root next last : Snapshot} {publisher after final : Publisher}

theorem Leads.refl : Leads root publisher 0 [] root publisher := by
  intro more
  rw [Nat.zero_add]
  exact ⟨rfl, rfl⟩

theorem leads_of_step (stepped : publisher.step? root = some (next, after)) :
    Leads root publisher 1 (publisher.events root) next after := by
  intro more
  rw [Nat.add_comm]
  exact ⟨run_of_step stepped, transcript_of_step stepped⟩

theorem Leads.trans {first second : Nat} {earlier later : List Event}
    (start : Leads root publisher first earlier next after)
    (goesOn : Leads next after second later last final) :
    Leads root publisher (first + second) (earlier ++ later) last final := by
  intro more
  have begun := start (second + more)
  have ended := goesOn more
  rw [Nat.add_assoc, begun.1, begun.2, ended.1, ended.2, List.append_assoc]
  exact ⟨rfl, rfl⟩

/-- A publisher that gets to rest within its steps has then done everything. -/
theorem Leads.settle {steps : Nat} {events : List Event}
    (leads : Leads root publisher steps events next after) (enough : steps ≤ publisher.stepsLeft)
    (resting : after.step? next = none) :
    publisher.settle root = (next, after) ∧ publisher.history root = events := by
  obtain ⟨more, total⟩ := Nat.exists_eq_add_of_le enough
  have led := leads more
  unfold Publisher.settle history
  rw [total, led.1, led.2, transcript_of_rest resting, List.append_nil]
  exact ⟨run_of_rest resting, rfl⟩

end Leads

end Publisher

end TextIndex
