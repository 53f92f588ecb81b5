import TextIndex.Proofs.Engine.History
import TextIndex.Proofs.Publishing.Verdicts

/-!
# What concurrent writers publish

Whatever writers, the publisher, and whoever closes the index do, and in whatever order, each
published snapshot is made of batches, one for each version. A writer may have looked for the
documents to hide long before its submission is introduced, but always in a root that led to the one
into which it is introduced. So what is known of snapshots made of batches is known of all that
concurrent writers publish.

* `Engine.Proposes`: that an introduction was prepared before a root.
* `Exchange.Founded`: what every step preserves.
* `Exchange.made_of_run`: the published versions are made of batches.
-/

namespace TextIndex

open TextIndex.Time

/-- An introduction was prepared from a batch, with the documents to hide looked for in a root that
led to the given one. -/
def Engine.Proposes (engine : Engine) (root : Snapshot) (introduction : Introduction) : Prop :=
  ∃ early batch, early.Reachable ∧ early.Evolves root ∧
    engine.proposal? early batch = some introduction

theorem Engine.Proposes.mono {engine : Engine} {root next : Snapshot} {introduction : Introduction}
    (proposes : engine.Proposes root introduction) (evolves : root.Evolves next) :
    engine.Proposes next introduction := by
  obtain ⟨early, batch, reachable, before, proposed⟩ := proposes
  exact ⟨early, batch, reachable, before.trans evolves, proposed⟩

namespace Service

/-- Each published version is made of the first of the given batches, as many as it says. -/
structure MadeOf (service : Service) (config : Config) (batches : List Batch) : Prop where
  length : batches.length = service.published.length
  versions : ∀ version ≤ service.published.length,
    (service.versionAt version).MadeOf config (batches.take version)

variable {service next : Service} {config : Config} {batches : List Batch}

theorem madeOf_start (config : Config) : MadeOf {} config [] where
  length := rfl
  versions := fun version isFirst => by
    obtain rfl := Nat.le_zero.mp isFirst
    exact .opened

theorem MadeOf.congr (made : service.MadeOf config batches)
    (same : next.published = service.published) : next.MadeOf config batches where
  length := by rw [same, made.length]
  versions := fun version published => by
    rw [same] at published
    rw [versionAt_of_isPrefix (same ▸ List.prefix_rfl) published]
    exact made.versions version published

/-- The last version is made of all of them. -/
theorem MadeOf.root (made : service.MadeOf config batches) (consistent : service.Consistent) :
    service.root.MadeOf config batches := by
  have last := made.versions _ (Nat.le_refl _)
  rw [← made.length, List.take_length, made.length] at last
  rw [consistent.root]
  exact last

/-- What was prepared before the root makes the next version. -/
theorem MadeOf.introduce {engine : Engine} (made : service.MadeOf engine.config batches)
    (used : engine.pool.Reachable) (consistent : service.Consistent) {request : Request}
    (proposes : engine.Proposes service.root request.introduction) {snapshot : Snapshot}
    {report : IntroductionReport}
    (introduced : service.root.introduce request.id request.introduction = .ok (snapshot, report))
    (publisher : Publisher) :
    ∃ batch, MadeOf ⟨snapshot, publisher, service.published ++ [⟨request, snapshot⟩]⟩ engine.config
      (batches ++ [batch]) := by
  obtain ⟨early, batch, reachable, evolves, proposed⟩ := proposes
  let publication : Publication := ⟨request, snapshot⟩
  let after : Service := ⟨snapshot, publisher, service.published ++ [publication]⟩
  have length : (batches ++ [batch]).length = after.published.length := by
    show _ = (service.published ++ [publication]).length
    rw [List.length_append, List.length_append, made.length]
    rfl
  refine ⟨batch, length, fun version published => ?_⟩
  have total : after.published.length = service.published.length + 1 := List.length_append
  rcases Nat.lt_or_eq_of_le published with earlier | last
  · have inside : version ≤ service.published.length :=
      Nat.le_of_lt_succ (Nat.lt_of_lt_of_eq earlier total)
    rw [versionAt_of_isPrefix (List.prefix_append _ _) inside,
      List.take_append_of_le_length (made.length ▸ inside)]
    exact made.versions version inside
  · have place : after.published[service.published.length]? = some publication :=
      List.getElem?_concat_length
    have newest : after.versionAt version = snapshot := by
      rw [last, total]
      exact versionAt_succ place
    rw [newest, last, ← length, List.take_length]
    exact (made.root consistent).introduce rfl used reachable evolves proposed introduced

end Service

namespace Exchange

/-- Whatever is prepared or submitted was prepared before the root, and the published versions are
made of batches. -/
structure Founded (engine : Engine) (exchange : Exchange) : Prop where
  truthful : exchange.Truthful
  prepared : ∀ writer batch introduction, exchange.writers writer = .prepared batch introduction →
    engine.Proposes exchange.service.root introduction
  submitted : ∀ submission ∈ exchange.submitted,
    engine.Proposes exchange.service.root submission.request.introduction
  made : ∃ batches, exchange.service.MadeOf engine.config batches

theorem founded_start (engine : Engine) : Founded engine {} where
  truthful := truthful_start
  prepared := fun _ _ _ prepared => nomatch prepared
  submitted := fun _ member => nomatch member
  made := ⟨[], Service.madeOf_start engine.config⟩

/-- Nothing is published, submitted or prepared. -/
structure Quiet (exchange next : Exchange) : Prop where
  root : next.service.root = exchange.service.root
  published : next.service.published = exchange.service.published
  submitted : next.submitted = exchange.submitted
  prepared : ∀ writer batch introduction, next.writers writer = .prepared batch introduction →
    exchange.writers writer = .prepared batch introduction

section Quiet

variable (exchange : Exchange) (writer : Nat)

theorem Quiet.refl : exchange.Quiet exchange :=
  ⟨rfl, rfl, rfl, fun _ _ _ prepared => prepared⟩

theorem quiet_move (point : Writer)
    (unprepared : ∀ batch introduction, point ≠ .prepared batch introduction) :
    exchange.Quiet (exchange.move writer point) := by
  refine ⟨rfl, rfl, rfl, fun other batch introduction prepared => ?_⟩
  rw [writers_move] at prepared
  split at prepared
  · exact absurd prepared (unprepared batch introduction)
  · exact prepared

theorem quiet_tell (id : Nat) (verdict : Verdict) :
    exchange.Quiet (exchange.tell writer id verdict) :=
  { exchange.quiet_move writer .idle nofun with }

theorem quiet_collect : exchange.Quiet (exchange.collect writer) := by
  unfold Exchange.collect
  split
  · split
    · exact exchange.quiet_tell writer _ _
    · exact .refl exchange
  · exact .refl exchange

theorem quiet_expire : exchange.Quiet (exchange.expire writer) := by
  unfold Exchange.expire
  split
  · split
    · exact .refl exchange
    · exact exchange.quiet_move writer _ nofun
  · exact .refl exchange

theorem quiet_abandon : exchange.Quiet (exchange.abandon writer) := by
  unfold Exchange.abandon
  split
  · split
    · next publisher _ =>
      exact { (exchange.withPublisher publisher).quiet_tell writer _ _ with }
    · exact exchange.quiet_move writer _ nofun
  · exact .refl exchange

end Quiet

namespace Founded

variable {engine : Engine} {exchange : Exchange} (founded : exchange.Founded engine)

include founded

theorem keep {next : Exchange} (truthful : next.Truthful) (quiet : exchange.Quiet next) :
    next.Founded engine where
  truthful := truthful
  prepared := fun writer batch introduction held => quiet.root ▸
    founded.prepared writer batch introduction (quiet.prepared writer batch introduction held)
  submitted := fun submission member =>
    quiet.root ▸ founded.submitted submission (quiet.submitted ▸ member)
  made := founded.made.imp fun _ made => made.congr quiet.published

theorem prepare (writer : Nat) (batch : Batch) :
    (exchange.prepare engine writer batch).Founded engine := by
  have truthful := (founded.truthful.prepare engine writer batch).truthful
  have consistent := founded.truthful.consistent
  have reachable : exchange.service.root.Reachable := by
    rw [consistent.root]
    exact consistent.evolves (Nat.zero_le _) (Nat.le_refl _)
  unfold Exchange.prepare at truthful ⊢
  split
  · next introduction idle proposed =>
    rw [idle, proposed] at truthful
    refine { founded with
      truthful := truthful
      prepared := fun other otherBatch another held => ?_ }
    rw [writers_move] at held
    split at held
    · obtain ⟨rfl, rfl⟩ := Writer.prepared.inj held
      exact ⟨exchange.service.root, _, reachable, .refl, proposed⟩
    · exact founded.prepared other otherBatch another held
  · exact founded

theorem submit (writer : Nat) (deadline : Option Duration) :
    (exchange.submit writer deadline).Founded engine := by
  have truthful := (founded.truthful.submit writer deadline).truthful
  cases prepared : exchange.writers writer with
  | prepared batch introduction =>
    rw [submit_of_prepared founded.truthful.consistent.usable prepared] at truthful ⊢
    by_cases usedUp : !exchange.service.publisher.hasNumber
    · rw [if_pos usedUp] at truthful ⊢
      exact founded.keep truthful (exchange.quiet_move writer .idle nofun)
    rw [if_neg usedUp] at truthful ⊢
    by_cases gone : exchange.service.publisher.isGone
    · rw [if_pos gone] at truthful ⊢
      exact founded.keep truthful { (exchange.withPublisher _).quiet_move writer .idle nofun with }
    · rw [if_neg gone] at truthful ⊢
      have queued := (exchange.enqueue writer batch introduction).quiet_move writer
        (.waiting (exchange.service.publisher.issued + 1) deadline) nofun
      refine {
        truthful := truthful
        prepared := fun other otherBatch another held =>
          founded.prepared other otherBatch another (queued.prepared other otherBatch another held)
        submitted := fun submission member => ?_
        made := founded.made.imp fun _ made => made.congr rfl }
      rcases List.mem_append.mp member with earlier | own
      · exact founded.submitted submission earlier
      · rw [List.mem_singleton.mp own]
        exact founded.prepared writer batch introduction prepared
  | idle | waiting id other | overdue id other =>
    unfold Exchange.submit
    rw [prepared]
    exact founded

/-- **A step of the publisher publishes what was prepared before the root**, if it publishes
anything. -/
theorem serve (used : engine.pool.Reachable) :
    Founded engine { exchange with service := exchange.service.serve } := by
  have consistent := founded.truthful.consistent
  obtain ⟨batches, made⟩ := founded.made
  have served : exchange.service.root.Evolves exchange.service.serve.root ∧
      ∃ batches, exchange.service.serve.MadeOf engine.config batches := by
    refine consistent.serve_cases (fun next => exchange.service.root.Evolves next.root ∧
      ∃ batches, next.MadeOf engine.config batches) ⟨.refl, batches, made⟩ ?_ ?_ ?_ ?_
    · exact fun _ _ _ => ⟨.refl, batches, made.congr rfl⟩
    · exact fun _ _ _ _ _ => ⟨.refl, batches, made.congr rfl⟩
    · intro request next report _ _ claimed introduced
      have inLine : request ∈ exchange.service.line := by
        unfold Service.line
        rw [claimed]
        exact List.mem_append_left _ (List.mem_append_right _ (List.mem_singleton_self _))
      obtain ⟨submission, member, rfl⟩ := List.mem_map.mp (founded.truthful.line request inLine)
      obtain ⟨batch, grown⟩ :=
        made.introduce used consistent (founded.submitted submission member) introduced _
      exact ⟨Snapshot.Evolves.refl.introduce introduced, _, grown⟩
    · exact fun _ _ _ _ _ => ⟨.refl, batches, made.congr rfl⟩
  exact {
    truthful := (founded.truthful.step engine .serve).truthful
    prepared := fun writer batch introduction held =>
      (founded.prepared writer batch introduction held).mono served.1
    submitted := fun submission member => (founded.submitted submission member).mono served.1
    made := served.2 }

theorem step (used : engine.pool.Reachable) (action : Action) :
    (exchange.step engine action).Founded engine := by
  cases action with
  | prepare writer batch => exact founded.prepare writer batch
  | submit writer deadline => exact founded.submit writer deadline
  | collect writer =>
    exact founded.keep (founded.truthful.collect writer).truthful (exchange.quiet_collect writer)
  | expire writer =>
    exact founded.keep (founded.truthful.expire writer).truthful (exchange.quiet_expire writer)
  | abandon writer =>
    exact founded.keep (founded.truthful.abandon writer).truthful (exchange.quiet_abandon writer)
  | beginClose =>
    exact founded.keep (founded.truthful.step engine .beginClose).truthful
      { Quiet.refl exchange with }
  | serve => exact founded.serve used

theorem run (used : engine.pool.Reachable) (schedule : List Action) :
    (exchange.run engine schedule).Founded engine := by
  induction schedule generalizing exchange with
  | nil => exact founded
  | cons action rest ih => exact ih (founded.step used action)

end Founded

/-- **What concurrent writers publish is made of batches**, one for each version, whatever they do
and in whatever order, with deadlines or without, and whether or not the index is closed. -/
theorem made_of_run {config : Config} {engine : Engine} (opened : engine.Opened config)
    (schedule : List Action) :
    let service := (Exchange.run engine {} schedule).service
    ∃ batches : List Batch, batches.length = service.root.version ∧
      service.root.MadeOf config batches ∧
      ∀ place (publication : Publication), service.published[place]? = some publication →
        publication.snapshot.MadeOf config (batches.take (place + 1)) := by
  intro service
  have founded := (founded_start engine).run opened.pool schedule
  have consistent : service.Consistent := founded.truthful.consistent
  obtain ⟨batches, made⟩ := founded.made
  rw [opened.ready.2.2] at made
  refine ⟨batches, made.length.trans consistent.version_root.symm, made.root consistent,
    fun place publication held => ?_⟩
  rw [← Service.versionAt_succ held]
  exact made.versions _ (List.getElem?_eq_some_iff.mp held).1

end Exchange

end TextIndex
