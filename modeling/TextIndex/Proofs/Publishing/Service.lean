import TextIndex.Proofs.Publishing.Steps
import TextIndex.Proofs.Snapshot.Visibility

/-!
# A publisher at work

A service is a root with its publisher and a record of what was published. Submissions stand in one
line: those published, the one claimed, and those in the mailbox. Their numbers ascend along this
line, so each is published once at most, nothing is ever out of order, and what is decided on one
submission stays decided.

* `Service.Consistent`: what every step preserves.
* `Service.Consistent.serve`, `Service.Consistent.enqueue`, `Service.Consistent.giveUp`: the steps.
* `Service.Consistent.version_versionAt`, `Service.Consistent.listed_versionAt`: what is known of
  the published snapshots.
-/

namespace TextIndex

/-- A submission that was published, with the snapshot that it made. -/
structure Publication where
  request : Request
  snapshot : Snapshot

/-- A root with its publisher and what was published so far. -/
structure Service where
  root : Snapshot := .empty
  publisher : Publisher := .empty
  published : List Publication := []

namespace Service

/-- What a step publishes: the claimed submission, if there is a new version. -/
def publications (service : Service) (next : Snapshot) : List Publication :=
  if next.version = service.root.version then []
  else service.publisher.inFlight.toList.map fun request => ⟨request, next⟩

/-- The publisher does what it does next, if there is anything to do. -/
def serve (service : Service) : Service :=
  match service.publisher.step? service.root with
  | none => service
  | some (root, publisher) => ⟨root, publisher, service.published ++ service.publications root⟩

/-- All submissions that are published or may still be, in order. -/
def line (service : Service) : List Request :=
  service.published.map (·.request) ++ service.publisher.inFlight.toList ++ service.publisher.queued

/-- Shedding submissions takes them out of the line. -/
theorem line_of_sheds {service : Service} {shed : List Request} {after : Publisher}
    (sheds : service.publisher.Sheds shed after) :
    (line { service with publisher := after }).Sublist service.line := by
  unfold line
  rw [sheds.queued, sheds.inFlight]
  exact (List.Sublist.refl _).append (List.sublist_append_right _ _)

/-- A submission that is claimed keeps its place in the line. -/
theorem line_of_claim {service : Service} {request : Request} {rest : List Message}
    (idle : service.publisher.inFlight = none)
    (first : service.publisher.mailbox = .introduce request :: rest)
    (claims : Std.ExtTreeMap Nat Claim) :
    line { service with publisher := { service.publisher with
      mailbox := rest
      claims
      inFlight := some request } } = service.line := by
  unfold line
  rw [idle, Publisher.queued_of_introduce first]
  show _ ++ [request] ++ rest.filterMap _ = _ ++ [] ++ (request :: rest.filterMap _)
  simp

/-- A submission that is published keeps its place in the line. -/
theorem line_of_introduce {service : Service} {request : Request} (next : Snapshot)
    (claimed : service.publisher.inFlight = some request) (owed : Option (Nat × Verdict))
    (counters : PublishCounters) :
    line ⟨next, { service.publisher with inFlight := none, owed, counters },
      service.published ++ [⟨request, next⟩]⟩ = service.line := by
  unfold line
  rw [claimed]
  show (service.published ++ [(⟨request, next⟩ : Publication)]).map _ ++ [] ++
    service.publisher.queued = _
  simp

/-- A submission that is put into the mailbox stands at the end of the line. -/
theorem line_of_enqueue (service : Service) (introduction : Introduction) :
    line { service with publisher := service.publisher.enqueue introduction } =
      service.line ++ [service.publisher.nextRequest introduction] := by
  unfold line
  show _ ++ (service.publisher.mailbox ++ [Message.introduce _]).filterMap _ = _
  rw [List.filterMap_append, ← List.append_assoc]
  rfl

theorem request_mem_line {service : Service} {place : Nat} {publication : Publication}
    (held : service.published[place]? = some publication) : publication.request ∈ service.line :=
  List.mem_append_left _ (List.mem_append_left _
    (List.mem_map_of_mem (List.mem_of_getElem? held)))

theorem mem_line_of_claimed {service : Service} {request : Request}
    (claimed : service.publisher.inFlight = some request) : request ∈ service.line := by
  unfold line
  rw [claimed]
  exact List.mem_append_left _ (List.mem_append_right _ (List.mem_singleton_self _))

/-- The published snapshot of a version; before the first, that of an index just opened. -/
def versionAt (service : Service) : Nat → Snapshot
  | 0 => .empty
  | place + 1 => (service.published[place]?.map (·.snapshot)).getD .empty

/-- A submission was published as a version. -/
def Made (service : Service) (id version : Nat) : Prop :=
  ∃ place publication, version = place + 1 ∧ service.published[place]? = some publication ∧
    publication.request.id = id

/-- What is preserved by every step of the publisher and of the writers. -/
structure Consistent (service : Service) : Prop where
  /-- The numbers ascend along the line. -/
  ordered : (service.line.map (·.id)).Pairwise (· < ·)
  /-- Numbers are given out from one upwards, as long as there are any left. -/
  positive : ∀ request ∈ service.line, 0 < request.id
  issued : ∀ request ∈ service.line, request.id ≤ service.publisher.issued
  bounded : service.publisher.issued < UInt64.size
  /-- Nothing is known of a number that was not given out. -/
  knownClaims : ∀ id claim, service.publisher.claims[id]? = some claim →
    id ≤ service.publisher.issued
  knownAnswers : ∀ id verdict, service.publisher.answers[id]? = some verdict →
    id ≤ service.publisher.issued
  claimed : ∀ request ∈ service.published.map (·.request) ++ service.publisher.inFlight.toList,
    service.publisher.claims[request.id]? = some .claimed
  /-- What was answered with an error does not stand in the line. -/
  refused : ∀ id error, service.publisher.answers[id]? = some (.error error) →
    ∀ request ∈ service.line, request.id ≠ id
  /-- Each published submission has its answer, or it is owed. -/
  decided : ∀ place publication, service.published[place]? = some publication →
    service.publisher.owed = some (publication.request.id, .ok (place + 1)) ∨
      service.publisher.answers[publication.request.id]? = some (.ok (place + 1))
  owes : ∀ id verdict, service.publisher.owed = some (id, verdict) →
    ∃ version, verdict = .ok version ∧ service.Made id version
  answered : ∀ id version, service.publisher.answers[id]? = some (.ok version) →
    service.Made id version
  /-- A publisher that serves no more owes nothing. -/
  settled : service.publisher.phase ≠ .serving → service.publisher.owed = none
  usable : service.publisher.failure = none
  root : service.root = service.versionAt service.published.length
  /-- Each published snapshot was made from the one before. -/
  chain : ∀ place publication, service.published[place]? = some publication →
    ∃ report, (service.versionAt place).introduce publication.request.id
      publication.request.introduction = .ok (publication.snapshot, report)

theorem consistent_start : Consistent {} where
  ordered := .nil
  positive := fun _ member => nomatch member
  issued := fun _ member => nomatch member
  bounded := by decide
  knownClaims := fun _ _ held => by cases Std.ExtTreeMap.getElem?_empty.symm.trans held
  knownAnswers := fun _ _ held => by cases Std.ExtTreeMap.getElem?_empty.symm.trans held
  claimed := fun _ member => nomatch member
  refused := fun _ _ held => by cases Std.ExtTreeMap.getElem?_empty.symm.trans held
  decided := fun _ _ held => nomatch held
  owes := fun _ _ held => nomatch held
  answered := fun _ _ held => by cases Std.ExtTreeMap.getElem?_empty.symm.trans held
  settled := fun _ => rfl
  usable := rfl
  root := rfl
  chain := fun _ _ held => nomatch held

/-! ### The published snapshots -/

theorem versionAt_succ {service : Service} {place : Nat} {publication : Publication}
    (held : service.published[place]? = some publication) :
    service.versionAt (place + 1) = publication.snapshot := by
  show (service.published[place]?.map _).getD _ = _
  rw [held]
  rfl

/-- What is published later changes no version that was published before. -/
theorem versionAt_of_isPrefix {service next : Service}
    (prefixed : service.published <+: next.published) {version : Nat}
    (published : version ≤ service.published.length) :
    next.versionAt version = service.versionAt version := by
  cases version with
  | zero => rfl
  | succ place =>
    obtain ⟨later, isNext⟩ := prefixed
    show (next.published[place]?.map _).getD _ = (service.published[place]?.map _).getD _
    rw [← isNext, List.getElem?_append_left published]

theorem Made.append {service next : Service} {id version : Nat} (made : service.Made id version)
    (prefixed : service.published <+: next.published) : next.Made id version := by
  obtain ⟨place, publication, rfl, held, same⟩ := made
  obtain ⟨later, isNext⟩ := prefixed
  refine ⟨place, publication, rfl, ?_, same⟩
  rw [← isNext, List.getElem?_append_left (List.getElem?_eq_some_iff.mp held).1, held]

namespace Consistent

variable {service : Service} (consistent : service.Consistent)

include consistent

/-- One version after the other. -/
theorem induction (holds : Nat → Snapshot → Prop) (first : holds 0 .empty)
    (later : ∀ place publication, service.published[place]? = some publication →
      holds place (service.versionAt place) →
      (service.versionAt place).obstacle? publication.request.id = none →
      holds (place + 1) ((service.versionAt place).next publication.request.id
        publication.request.introduction))
    {version : Nat} (published : version ≤ service.published.length) :
    holds version (service.versionAt version) := by
  induction version with
  | zero => exact first
  | succ place ih =>
    have held := List.getElem?_eq_getElem published
    obtain ⟨report, introduced⟩ := consistent.chain place _ held
    obtain ⟨free, same, -⟩ := Snapshot.introduce_eq_ok introduced
    rw [versionAt_succ held, same]
    exact later place _ held (ih (Nat.le_of_succ_le published)) free

theorem version_versionAt {version : Nat} (published : version ≤ service.published.length) :
    (service.versionAt version).version = version :=
  consistent.induction (fun version snapshot => snapshot.version = version) rfl
    (fun _ _ _ same _ => congrArg (· + 1) same) published

/-- A version lists no segments but those of the submissions published up to it. -/
theorem listed_versionAt {version : Nat} (published : version ≤ service.published.length) :
    ∀ id ∈ (service.versionAt version).segmentIds,
      ∃ publication ∈ service.published.take version, publication.request.id = id := by
  refine consistent.induction (fun version snapshot => ∀ id ∈ snapshot.segmentIds,
    ∃ publication ∈ service.published.take version, publication.request.id = id)
    (fun _ member => nomatch member)
    (fun place publication held earlier _ id member => ?_) published
  rw [List.take_add_one, held]
  rw [Snapshot.segmentIds_eq, Snapshot.contents_next, List.map_append, List.mem_append,
    ← Snapshot.segmentIds_eq] at member
  rcases member with older | own
  · obtain ⟨other, isOther, same⟩ := earlier id older
    exact ⟨other, List.mem_append_left _ isOther, same⟩
  · obtain ⟨entry, ofIntroduction, rfl⟩ := List.mem_map.mp own
    refine ⟨publication, List.mem_append_right _ (List.mem_singleton_self _), ?_⟩
    exact (Introduction.fst_of_mem_added ofIntroduction).symm

/-- Introductions lead from each version to the later ones. -/
theorem evolves {early late : Nat} (order : early ≤ late)
    (published : late ≤ service.published.length) :
    Snapshot.Evolves (service.versionAt early) (service.versionAt late) := by
  induction order with
  | refl => exact .refl
  | @step place _ ih =>
    have held := List.getElem?_eq_getElem published
    obtain ⟨report, introduced⟩ := consistent.chain place _ held
    rw [versionAt_succ held]
    exact (ih (Nat.le_of_succ_le published)).introduce introduced

theorem version_root : service.root.version = service.published.length := by
  rw [consistent.root]
  exact consistent.version_versionAt (Nat.le_refl _)

/-- The numbers of the published submissions ascend up to that of the claimed one. -/
theorem ordered_front :
    ((service.published.map (·.request) ++ service.publisher.inFlight.toList).map (·.id)).Pairwise
      (· < ·) :=
  consistent.ordered.sublist ((List.sublist_append_left _ _).map _)

/-- No submission is published twice. -/
theorem nodup_published : (service.published.map (·.request.id)).Nodup := by
  have ordered := consistent.ordered_front
  rw [List.map_append, List.pairwise_append, List.map_map] at ordered
  exact ordered.1.imp Nat.ne_of_lt

/-- The numbers of the published submissions are below that of the claimed one. -/
theorem lt_of_claimed {request : Request} (claimed : service.publisher.inFlight = some request) :
    ∀ publication ∈ service.published, publication.request.id < request.id := by
  intro publication isPublished
  have ordered := consistent.ordered_front
  rw [claimed, List.map_append, List.pairwise_append] at ordered
  have before : publication.request.id ∈ (service.published.map (·.request)).map (·.id) :=
    List.mem_map_of_mem (List.mem_map_of_mem isPublished)
  exact ordered.2.2 _ before request.id (List.mem_map_of_mem (List.mem_singleton_self request))

/-- Each published submission used up a number. -/
theorem length_published_lt {request : Request}
    (claimed : service.publisher.inFlight = some request) :
    service.published.length < request.id := by
  have below : service.published.map (·.request.id) ⊆ List.range' 1 (request.id - 1) := by
    intro id member
    obtain ⟨publication, isPublished, rfl⟩ := List.mem_map.mp member
    obtain ⟨place, held⟩ := List.mem_iff_getElem?.mp isPublished
    have positive := consistent.positive publication.request (request_mem_line held)
    have smaller := consistent.lt_of_claimed claimed publication isPublished
    rw [List.mem_range'_1]
    omega
  have fewer := consistent.nodup_published.length_le_of_subset below
  have positive := consistent.positive request (mem_line_of_claimed claimed)
  rw [List.length_map, List.length_range'] at fewer
  omega

/-- Nothing stands in the way of the claimed submission. -/
theorem clear {request : Request} (claimed : service.publisher.inFlight = some request) :
    service.root.obstacle? request.id = none := by
  refine Snapshot.obstacle?_eq_none.mpr
    ⟨?_, Snapshot.blocking?_eq_none_of_above fun id member => ?_⟩
  · have later := consistent.length_published_lt claimed
    have issued := consistent.issued request (mem_line_of_claimed claimed)
    have bounded := consistent.bounded
    rw [consistent.version_root]
    omega
  · rw [consistent.root] at member
    obtain ⟨publication, isPublished, rfl⟩ := consistent.listed_versionAt (Nat.le_refl _) id member
    exact consistent.lt_of_claimed claimed publication (List.mem_of_mem_take isPublished)

theorem place_unique {first second : Nat} {one other : Publication}
    (firstHeld : service.published[first]? = some one)
    (secondHeld : service.published[second]? = some other)
    (same : one.request.id = other.request.id) : first = second := by
  refine (List.getElem?_inj ?_ consistent.nodup_published).mp ?_
  · rw [List.length_map]
    exact (List.getElem?_eq_some_iff.mp firstHeld).1
  · simp only [List.getElem?_map, firstHeld, secondHeld, Option.map_some, same]

/-! ### Steps of the publisher -/

/-- Shedding submissions keeps a service consistent. -/
theorem shed {shed : List Request} {after : Publisher}
    (sheds : service.publisher.Sheds shed after)
    (settled : after.phase ≠ .serving → service.publisher.owed = none) :
    Consistent { service with publisher := after } := by
  have sublist := line_of_sheds sheds
  have shedIssued : ∀ request ∈ shed, request.id ≤ service.publisher.issued := by
    intro request member
    refine consistent.issued request ?_
    unfold line
    rw [sheds.queued]
    exact List.mem_append_right _ (List.mem_append_left _ member)
  have apart : ∀ request ∈ shed, ∀ other ∈ line { service with publisher := after },
      other.id ≠ request.id := by
    have distinct : (service.line.map (·.id)).Nodup := consistent.ordered.imp Nat.ne_of_lt
    unfold line at distinct
    rw [sheds.queued, ← sheds.inFlight, (List.perm_append_comm_assoc _ _ _).map _ |>.nodup_iff,
      List.map_append, List.nodup_append] at distinct
    intro request isShed other isLeft same
    exact distinct.2.2 _ (List.mem_map_of_mem isShed) _ (List.mem_map_of_mem isLeft) same.symm
  refine { consistent with
    ordered := consistent.ordered.sublist (sublist.map _)
    positive := fun request member => consistent.positive request (sublist.subset member)
    issued := ?issued
    bounded := sheds.issued ▸ consistent.bounded
    knownClaims := ?knownClaims
    knownAnswers := ?knownAnswers
    claimed := ?claimed
    refused := ?refused
    decided := ?decided
    owes := ?owes
    answered := ?answered
    settled := fun gone => sheds.owed.trans (settled gone)
    usable := sheds.failure.trans consistent.usable }
  case issued =>
    intro request member
    rw [sheds.issued]
    exact consistent.issued request (sublist.subset member)
  case knownClaims =>
    intro id claim held
    rw [sheds.claims] at held
    rw [sheds.issued]
    exact consistent.knownClaims id claim held
  case knownAnswers =>
    intro id verdict held
    rw [sheds.issued]
    rcases sheds.answers id with same | ⟨⟨request, isShed, rfl⟩, -⟩
    · exact consistent.knownAnswers id verdict (same ▸ held)
    · exact shedIssued request isShed
  case claimed =>
    intro request member
    rw [sheds.claims]
    rw [sheds.inFlight] at member
    exact consistent.claimed request member
  case refused =>
    intro id error held request member
    rcases sheds.answers id with same | ⟨⟨other, isShed, rfl⟩, -⟩
    · exact consistent.refused id error (same ▸ held) request (sublist.subset member)
    · exact apart other isShed request member
  case decided =>
    intro place publication held
    rw [sheds.owed]
    refine (consistent.decided place publication held).imp_right fun answered => ?_
    rcases sheds.answers publication.request.id with same | ⟨⟨other, isShed, same⟩, -⟩
    · exact same.trans answered
    · have stays : publication.request ∈ line { service with publisher := after } :=
        request_mem_line held
      exact absurd same.symm (apart other isShed publication.request stays)
  case owes =>
    intro id verdict held
    rw [sheds.owed] at held
    exact consistent.owes id verdict held
  case answered =>
    intro id version held
    rcases sheds.answers id with same | ⟨-, error, answered⟩
    · exact consistent.answered id version (same.symm.trans held)
    · rw [answered] at held
      cases held

/-- Giving the answer that is owed keeps a service consistent. -/
theorem answer {id : Nat} {verdict : Verdict} (owes : service.publisher.owed = some (id, verdict)) :
    Consistent { service with
      publisher := { service.publisher.answer id verdict with owed := none } } := by
  obtain ⟨version, rfl, made⟩ := consistent.owes id verdict owes
  have answers := service.publisher.getElem?_answer id (.ok version)
  refine { consistent with
    knownAnswers := ?knownAnswers
    refused := ?refused
    decided := ?decided
    owes := fun _ _ held => nomatch held
    answered := ?answered
    settled := fun _ => rfl }
  case knownAnswers =>
    intro other told held
    rw [answers] at held
    split at held
    · next same =>
      obtain ⟨place, publication, -, isPublished, rfl⟩ := made
      rw [← same]
      exact consistent.issued _ (request_mem_line isPublished)
    · exact consistent.knownAnswers other told held
  case refused =>
    intro other error held
    exact consistent.refused other error (getElem?_of_insert_number held (by simp))
  case decided =>
    intro place publication held
    refine .inr ?_
    rw [answers]
    split
    · next same =>
      obtain ⟨madeAt, other, rfl, isPublished, rfl⟩ := made
      rw [consistent.place_unique isPublished held same]
    · next other =>
      refine (consistent.decided place publication held).resolve_left fun owed => other ?_
      rw [owes] at owed
      exact congrArg Prod.fst (Option.some.inj owed)
  case answered =>
    intro other told held
    rw [answers] at held
    split at held
    · next same =>
      cases held
      rw [← same]
      exact made
    · exact consistent.answered other told held

/-- Claiming the first submission of the mailbox keeps a service consistent. -/
theorem claim {request : Request} {rest : List Message} (idle : service.publisher.inFlight = none)
    (first : service.publisher.mailbox = .introduce request :: rest) :
    Consistent { service with publisher := { service.publisher with
      mailbox := rest
      claims := service.publisher.claims.insert request.id .claimed
      inFlight := some request } } := by
  have sameLine := line_of_claim idle first (service.publisher.claims.insert request.id .claimed)
  have claims := getElem?_insert_number service.publisher.claims request.id .claimed
  refine { consistent with
    ordered := by rw [sameLine]; exact consistent.ordered
    positive := by rw [sameLine]; exact consistent.positive
    issued := by rw [sameLine]; exact consistent.issued
    knownClaims := ?knownClaims
    claimed := ?claimed
    refused := by rw [sameLine]; exact consistent.refused }
  case knownClaims =>
    intro other claim held
    rw [claims] at held
    split at held
    · next same =>
      rw [← same]
      refine consistent.issued request (List.mem_append_right _ ?_)
      rw [Publisher.queued_of_introduce first]
      exact List.mem_cons_self
    · exact consistent.knownClaims other claim held
  case claimed =>
    intro other member
    rw [claims]
    split
    · rfl
    · next different =>
      rcases List.mem_append.mp member with isPublished | isClaimed
      · exact consistent.claimed other (List.mem_append_left _ isPublished)
      · exact absurd (congrArg Request.id (List.mem_singleton.mp isClaimed)).symm different

/-- Introducing the claimed submission keeps a service consistent. -/
theorem introduce {request : Request} {next : Snapshot} {report : IntroductionReport}
    (serving : service.publisher.phase = .serving) (settled : service.publisher.owed = none)
    (claimed : service.publisher.inFlight = some request)
    (introduced : service.root.introduce request.id request.introduction = .ok (next, report))
    (counters : PublishCounters) :
    Consistent ⟨next, { service.publisher with
      inFlight := none
      owed := some (request.id, .ok next.version)
      counters }, service.published ++ [⟨request, next⟩]⟩ := by
  let publication : Publication := ⟨request, next⟩
  let after : Service := ⟨next, { service.publisher with
      inFlight := none
      owed := some (request.id, .ok next.version)
      counters }, service.published ++ [publication]⟩
  show after.Consistent
  have version : next.version = service.published.length + 1 := by
    obtain ⟨-, rfl, -⟩ := Snapshot.introduce_eq_ok introduced
    exact congrArg (· + 1) consistent.version_root
  have last : after.published[service.published.length]? = some publication :=
    List.getElem?_concat_length
  have before : ∀ {place}, place < service.published.length →
      after.published[place]? = service.published[place]? := fun inside =>
    List.getElem?_append_left inside
  have sameVersion : ∀ version, version ≤ service.published.length →
      after.versionAt version = service.versionAt version := by
    intro version inside
    cases version with
    | zero => rfl
    | succ place =>
      show (after.published[place]?.map _).getD _ = (service.published[place]?.map _).getD _
      rw [before inside]
  have sameLine : after.line = service.line := line_of_introduce next claimed _ _
  -- What holds of every publication holds of the earlier ones and of the new one.
  have publications : ∀ {holds : Nat → Publication → Prop},
      (∀ place earlier, service.published[place]? = some earlier → holds place earlier) →
      holds service.published.length publication →
      ∀ place any, after.published[place]? = some any → holds place any := by
    intro holds earlier new place any held
    rcases held_of_concat held with ⟨-, heldBefore⟩ | ⟨rfl, rfl⟩
    · exact earlier place any heldBefore
    · exact new
  refine { consistent with
    ordered := by rw [sameLine]; exact consistent.ordered
    positive := by rw [sameLine]; exact consistent.positive
    issued := by rw [sameLine]; exact consistent.issued
    claimed := ?claimed
    refused := by rw [sameLine]; exact consistent.refused
    decided := publications ?decided ?decidedNew
    owes := ?owes
    answered := fun id version held =>
      (consistent.answered id version held).append (List.prefix_append _ _)
    settled := fun gone => absurd serving gone
    root := ?root
    chain := publications ?chain ?chainNew }
  case claimed =>
    intro other member
    refine consistent.claimed other ?_
    rw [claimed]
    simpa [after, publication] using member
  case decided =>
    intro place earlier held
    refine .inr ((consistent.decided place earlier held).resolve_left fun owed => ?_)
    rw [settled] at owed
    cases owed
  case decidedNew => exact .inl (by rw [← version])
  case owes =>
    intro id verdict held
    cases held
    exact ⟨next.version, rfl, service.published.length, publication, version, last, rfl⟩
  case root =>
    show next = after.versionAt (service.published ++ [publication]).length
    rw [List.length_append, List.length_singleton]
    exact (versionAt_succ last).symm
  case chain =>
    intro place earlier held
    rw [sameVersion place (Nat.le_of_lt (List.getElem?_eq_some_iff.mp held).1)]
    exact consistent.chain place earlier held
  case chainNew =>
    rw [sameVersion _ (Nat.le_refl _), ← consistent.root]
    exact ⟨report, introduced⟩

/-- Nothing fails in a consistent service: whatever the publisher does next, it rests, gives an
answer, claims a submission, introduces one, or sheds some, for which there has to be a reason. -/
theorem serve_cases (holds : Service → Prop) (rests : holds service)
    (answers : ∀ id verdict, service.publisher.owed = some (id, verdict) →
      holds { service with
        publisher := { service.publisher.answer id verdict with owed := none } })
    (claims : ∀ request rest, service.publisher.inFlight = none →
      service.publisher.mailbox = .introduce request :: rest →
      service.publisher.claims[request.id]? ≠ some .abandoned →
      holds { service with publisher := { service.publisher with
        mailbox := rest
        claims := service.publisher.claims.insert request.id .claimed
        inFlight := some request } })
    (introduces : ∀ request next report, service.publisher.phase = .serving →
      service.publisher.owed = none → service.publisher.inFlight = some request →
      service.root.introduce request.id request.introduction = .ok (next, report) →
      holds ⟨next, { service.publisher with
        inFlight := none
        owed := some (request.id, .ok next.version)
        counters := Publisher.record service.publisher.counters next.version report },
        service.published ++ [⟨request, next⟩]⟩)
    (sheds : ∀ shed after, service.publisher.Sheds shed after →
      (after.phase ≠ .serving → service.publisher.owed = none) → service.publisher.Disturbed →
      holds { service with publisher := after }) :
    holds service.serve := by
  unfold Service.serve
  cases stepped : service.publisher.step? service.root with
  | none => exact rests
  | some result =>
    obtain ⟨root, publisher⟩ := result
    have unchanged : service.publications service.root = [] := by
      unfold publications
      rw [if_pos rfl]
    show holds ⟨root, publisher, service.published ++ service.publications root⟩
    cases Publisher.serves_of_step? stepped with
    | answers owes =>
      rw [unchanged, List.append_nil]
      exact answers _ _ owes
    | introduces serving settled claimed introduced =>
      have version : root.version ≠ service.root.version := by
        obtain ⟨-, rfl, -⟩ := Snapshot.introduce_eq_ok introduced
        exact Nat.succ_ne_self _
      unfold publications
      rw [if_neg version, claimed]
      exact introduces _ _ _ serving settled claimed introduced
    | fails claimed failed =>
      -- The claimed number is above all listed ones, so this step is never taken.
      rw [Snapshot.introduce_of_free _ (consistent.clear claimed)] at failed
      cases failed
    | claims settled idle first waited =>
      rw [unchanged, List.append_nil]
      exact claims _ _ idle first waited
    | passesOver first abandoned =>
      rw [unchanged, List.append_nil]
      exact sheds _ _ (Publisher.sheds_passOver first _) consistent.settled
        (.inr (.inr ⟨_, abandoned⟩))
    | refuses first unusable =>
      rw [consistent.usable] at unusable
      cases unusable
    | seesClose settled first =>
      rw [unchanged, List.append_nil]
      have closing : Message.close ∈ service.publisher.mailbox := by
        rw [first]
        exact List.mem_cons_self
      exact sheds _ _ (Publisher.sheds_close first _) (fun _ => settled) (.inr (.inl closing))
    | drains draining =>
      rw [unchanged, List.append_nil]
      have gone : service.publisher.phase ≠ .serving := by
        rw [draining]
        decide
      obtain ⟨shed, drained⟩ := service.publisher.sheds_drain
      exact sheds _ _ drained (fun _ => consistent.settled gone) (.inl gone)
    | leaves leaving =>
      rw [unchanged, List.append_nil]
      have gone : service.publisher.phase ≠ .serving := by
        rw [leaving]
        decide
      exact sheds _ _ service.publisher.sheds_leave (fun _ => consistent.settled gone) (.inl gone)

/-- Every step of the publisher keeps a service consistent. -/
theorem serve : service.serve.Consistent := by
  refine consistent.serve_cases Consistent consistent ?_ ?_ ?_ ?_
  · exact fun id verdict owes => consistent.answer owes
  · exact fun request rest idle first _ => consistent.claim idle first
  · exact fun request next report serving settled claimed introduced =>
      consistent.introduce serving settled claimed introduced _
  · exact fun shed after sheds settled _ => consistent.shed sheds settled

/-- No step of the publisher brings anything into the line. -/
theorem line_serve : service.serve.line.Sublist service.line := by
  refine consistent.serve_cases (fun next => next.line.Sublist service.line) (.refl _) ?_ ?_ ?_ ?_
  · exact fun id verdict _ => List.Sublist.refl _
  · exact fun request rest idle first _ => (line_of_claim idle first _).symm ▸ List.Sublist.refl _
  · exact fun request next report _ _ claimed _ =>
      (line_of_introduce next claimed _ _).symm ▸ List.Sublist.refl _
  · exact fun shed after sheds _ _ => line_of_sheds sheds

/-! ### Steps of the writers -/

/-- A submission that is put into the mailbox keeps a service consistent. -/
theorem enqueue (hasNumber : service.publisher.hasNumber = true) (introduction : Introduction) :
    Consistent { service with publisher := service.publisher.enqueue introduction } := by
  let request := service.publisher.nextRequest introduction
  let after : Service := { service with publisher := service.publisher.enqueue introduction }
  show after.Consistent
  have line : after.line = service.line ++ [request] := service.line_of_enqueue introduction
  have claims := getElem?_insert_number service.publisher.claims request.id .pending
  have grown : ∀ {id}, id ≤ service.publisher.issued → id ≤ after.publisher.issued :=
    fun known => Nat.le_succ_of_le known
  have fresh : ∀ {id}, id ≤ service.publisher.issued → request.id ≠ id := fun known same =>
    Nat.not_succ_le_self _ (same ▸ known)
  refine { consistent with
    ordered := ?ordered
    positive := ?positive
    issued := ?issued
    bounded := of_decide_eq_true hasNumber
    knownClaims := ?knownClaims
    knownAnswers := fun id verdict held => grown (consistent.knownAnswers id verdict held)
    claimed := ?claimed
    refused := ?refused }
  case ordered =>
    rw [line, List.map_append, List.pairwise_append]
    refine ⟨consistent.ordered, List.pairwise_singleton _ _, fun id member own isOwn => ?_⟩
    obtain ⟨other, isOther, rfl⟩ := List.mem_map.mp member
    rw [List.mem_singleton.mp isOwn]
    exact Nat.lt_succ_of_le (consistent.issued other isOther)
  case positive =>
    intro other member
    rw [line] at member
    rcases List.mem_append.mp member with older | own
    · exact consistent.positive other older
    · rw [List.mem_singleton.mp own]
      exact Nat.succ_pos _
  case issued =>
    intro other member
    rw [line] at member
    rcases List.mem_append.mp member with older | own
    · exact grown (consistent.issued other older)
    · rw [List.mem_singleton.mp own]
      exact Nat.le_refl _
  case knownClaims =>
    intro id claim held
    have held := (claims id).symm.trans held
    split at held
    · next same => exact same ▸ Nat.le_refl _
    · exact grown (consistent.knownClaims id claim held)
  case claimed =>
    intro other member
    have held := consistent.claimed other member
    have older := fresh (consistent.knownClaims _ _ held)
    exact ((claims other.id).trans (if_neg older)).trans held
  case refused =>
    intro id error held other member
    rw [line] at member
    rcases List.mem_append.mp member with older | own
    · exact consistent.refused id error held other older
    · rw [List.mem_singleton.mp own]
      exact fresh (consistent.knownAnswers id _ held)

theorem issueNumber (hasNumber : service.publisher.hasNumber = true) :
    Consistent { service with publisher := service.publisher.issueNumber } where
  ordered := consistent.ordered
  positive := consistent.positive
  bounded := of_decide_eq_true hasNumber
  issued := fun request member => Nat.le_succ_of_le (consistent.issued request member)
  knownClaims := fun id claim held => Nat.le_succ_of_le (consistent.knownClaims id claim held)
  knownAnswers := fun id verdict held =>
    Nat.le_succ_of_le (consistent.knownAnswers id verdict held)
  claimed := consistent.claimed
  refused := consistent.refused
  decided := consistent.decided
  owes := consistent.owes
  answered := consistent.answered
  settled := consistent.settled
  usable := consistent.usable
  root := consistent.root
  chain := consistent.chain

theorem giveUp {id : Nat} {publisher : Publisher}
    (givenUp : service.publisher.giveUp? id = some publisher) :
    Consistent { service with publisher } := by
  unfold Publisher.giveUp? at givenUp
  split at givenUp
  · next pending =>
    cases givenUp
    have claims := getElem?_insert_number service.publisher.claims id .abandoned
    refine { consistent with knownClaims := ?knownClaims, claimed := ?claimed }
    case knownClaims =>
      intro other claim held
      rw [claims] at held
      split at held
      · next same => exact same ▸ consistent.knownClaims id _ pending
      · exact consistent.knownClaims other claim held
    case claimed =>
      intro request member
      have held := consistent.claimed request member
      have other : id ≠ request.id := by
        rintro rfl
        rw [pending] at held
        cases held
      rw [claims, if_neg other]
      exact held
  · cases givenUp

theorem beginClose : Consistent { service with publisher := service.publisher.beginClose } :=
  consistent.shed service.publisher.sheds_beginClose fun gone =>
    consistent.settled fun serving => gone (service.publisher.phase_beginClose.trans serving)

end Consistent

end Service

end TextIndex
