import TextIndex.Proofs.Engine.Catalog
import TextIndex.Proofs.Engine.Stages

/-!
# The history of an index

Whatever is done with an index, its state comes of the batches that were committed, in order. Calls
that give an error, closing, and what others do with a shared pool leave the root as it is. A
snapshot may also be made by several writers at a time: each looked for the documents to hide in
some snapshot published by then, and still the snapshots are those of the batches one by one.

* `Snapshot.MadeOf`: the snapshots that committed batches lead to.
* `Snapshot.MadeOf.fold`: what every commit preserves holds of all of them.
* `Engine.Reached`: the states that an index comes to.
* `Engine.Reached.standing`: what is known of each of them.
-/

namespace TextIndex

/-- Batches are committed in order. -/
theorem Catalog.after_append (config : Config) (batches : List Batch) (batch : Batch) :
    Catalog.after config (batches ++ [batch]) =
      (Catalog.after config batches).commit config batch := by
  unfold Catalog.after
  rw [List.foldl_append]
  rfl

/-! ### Snapshots made of batches -/

namespace Snapshot

/-- The snapshots that commits of the given batches lead to. Each batch was analyzed by an engine of
the same configuration, and the documents to hide were looked for in an earlier snapshot or in the
one that it was introduced into. -/
inductive MadeOf (config : Config) : List Batch → Snapshot → Prop
  | opened : MadeOf config [] .empty
  | introduce {batches : List Batch} {snapshot early next : Snapshot} {writer : Engine}
      {batch : Batch} {introduction : Introduction} {id : Nat} {report : IntroductionReport}
      (before : MadeOf config batches snapshot) (sameConfig : writer.config = config)
      (used : writer.pool.Reachable) (published : early.Reachable)
      (evolves : early.Evolves snapshot)
      (proposed : writer.proposal? early batch = some introduction)
      (introduced : snapshot.introduce id introduction = .ok (next, report)) :
      MadeOf config (batches ++ [batch]) next

variable {config : Config} {batches : List Batch} {snapshot : Snapshot}

/-- What a batch introduces hides what it has to hide, whenever that was looked for. -/
theorem splice_of_introduce {early next : Snapshot} {writer : Engine} {batch : Batch}
    {introduction : Introduction} {id : Nat} {report : IntroductionReport}
    (used : writer.pool.Reachable) (published : early.Reachable) (evolves : early.Evolves snapshot)
    (proposed : writer.proposal? early batch = some introduction)
    (introduced : snapshot.introduce id introduction = .ok (next, report)) :
    batch.validate = .ok () ∧ snapshot.blocking? id = none ∧
      next = snapshot.splice id (writer.contribution batch) := by
  obtain ⟨valid, rfl⟩ := Engine.proposal?_eq_some used.numbered proposed
  obtain ⟨free, made, -⟩ := introduce_eq_ok introduced
  refine ⟨valid, (obstacle?_eq_none.mp free).2, ?_⟩
  rw [made]
  exact next_obsoletesOf evolves published.ascending (writer.contribution batch) id

theorem MadeOf.reachable (made : snapshot.MadeOf config batches) : snapshot.Reachable := by
  induction made with
  | opened => exact .refl
  | introduce _ _ _ _ _ _ introduced ih => exact ih.introduce introduced

theorem MadeOf.sound (made : snapshot.MadeOf config batches) : snapshot.Sound := by
  induction made with
  | opened => exact sound_empty
  | introduce _ _ used published evolves proposed introduced ih =>
    obtain ⟨valid, clear, rfl⟩ :=
      splice_of_introduce used published evolves proposed introduced
    exact ih.splice clear (Engine.proper_contribution valid)

/-- What holds of an index just opened, and is preserved when the contribution of a batch is spliced
into a sound snapshot, holds of every snapshot that is made of batches. -/
theorem MadeOf.fold (made : snapshot.MadeOf config batches)
    (holds : List Batch → Snapshot → Prop) (opened : holds [] .empty)
    (splice : ∀ {batches : List Batch} {snapshot : Snapshot} {writer : Engine} {batch : Batch}
      {id : Nat}, writer.config = config → snapshot.Sound → snapshot.blocking? id = none →
      batch.validate = .ok () → holds batches snapshot →
      holds (batches ++ [batch]) (snapshot.splice id (writer.contribution batch))) :
    holds batches snapshot := by
  induction made with
  | opened => exact opened
  | introduce before sameConfig used published evolves proposed introduced ih =>
    obtain ⟨valid, clear, rfl⟩ :=
      splice_of_introduce used published evolves proposed introduced
    exact splice sameConfig before.sound clear valid ih

theorem MadeOf.version (made : snapshot.MadeOf config batches) :
    snapshot.version = batches.length := by
  refine made.fold (fun batches snapshot => snapshot.version = batches.length) rfl ?_
  intro _ _ _ _ _ _ _ _ _ version
  rw [List.length_append, List.length_singleton, ← version]
  rfl

/-- A snapshot shows what its batches come to. -/
theorem MadeOf.represents (made : snapshot.MadeOf config batches) :
    snapshot.Represents (.after config batches) := by
  refine made.fold (fun batches snapshot => snapshot.Represents (.after config batches))
    represents_empty ?_
  rintro _ _ _ _ _ rfl sound clear valid represents
  rw [Catalog.after_append]
  exact represents.commit sound clear valid

end Snapshot

/-! ### The states of an index -/

namespace Engine

/-- The states that an index comes to with nothing under way, each with the batches that were
committed so far: one after the other, or several at a time by others. Deadlines may have passed.
Somebody else may use a shared pool meanwhile and may close it, but nobody opens it again. -/
inductive Reached (config : Config) : List Batch → Engine → Prop
  | opened {engine : Engine} (opened : engine.Opened config) : Reached config [] engine
  | commits {batches : List Batch} {engine next : Engine} {batch : Batch} {late : Bool}
      {receipt : Receipt} (before : Reached config batches engine)
      (done : engine.commit batch late = (.ok receipt, next)) :
      Reached config (batches ++ [batch]) next
  | fails {batches : List Batch} {engine next : Engine} {batch : Batch} {late : Bool}
      {error : IndexError} (before : Reached config batches engine)
      (done : engine.commit batch late = (.error error, next)) : Reached config batches next
  | others {batches more : List Batch} {engine : Engine} {root : Snapshot} {publisher : Publisher}
      {counters : BatchCounters} (before : Reached config batches engine)
      (isOpen : engine.closed = false) (evolves : engine.root.Evolves root)
      (made : root.MadeOf config (batches ++ more)) (rests : publisher.AtRest)
      (issued : ∀ listed ∈ root.segmentIds, listed ≤ publisher.issued)
      (version : root.version ≤ publisher.issued) :
      Reached config (batches ++ more) { engine with root, publisher, counters }
  | closes {batches : List Batch} {engine : Engine} (before : Reached config batches engine) :
      Reached config batches engine.close.2
  | sharesPool {batches : List Batch} {engine : Engine} {pool : WorkerPool}
      (before : Reached config batches engine) (shared : engine.ownsPool = false)
      (used : pool.Reachable) (stays : engine.pool.closed = true → pool.closed = true) :
      Reached config batches { engine with pool }

/-- The root is made of the committed batches, and while the index is open it is ready for more. -/
structure Standing (config : Config) (batches : List Batch) (engine : Engine) : Prop where
  sameConfig : engine.config = config
  pool : engine.pool.Reachable
  made : engine.root.MadeOf config batches
  ready : engine.closed = false → engine.Ready

theorem Opened.pool {config : Config} {engine : Engine} (opened : engine.Opened config) :
    engine.pool.Reachable := by
  obtain ⟨pool, used, ownsPool, rfl⟩ := opened.eq
  exact used

theorem standing_of_opened {config : Config} {engine : Engine} (opened : engine.Opened config) :
    engine.Standing config [] := by
  obtain ⟨ready, root, sameConfig⟩ := opened.ready
  exact ⟨sameConfig, opened.pool, root ▸ .opened, fun _ => ready⟩

namespace Standing

variable {config : Config} {batches : List Batch} {engine : Engine}
  (standing : engine.Standing config batches)

include standing

/-- A batch is refused, or it is what the next version is made of. -/
theorem commit_cases (batch : Batch) (late : Bool) :
    engine.Refuses (engine.commit batch late) ∨
      engine.closed = false ∧ engine.publisher.hasNumber = true ∧ ∃ introduction,
        engine.proposal? engine.root batch = some introduction ∧
          engine.Publishes introduction (engine.commit batch late) := by
  cases isClosed : engine.closed with
  | true =>
    rw [commit_of_closed isClosed]
    exact .inl (engine.refuses_withCounters _ _)
  | false =>
    exact (@commit_of_ready engine batch late (standing.ready isClosed)).imp_right fun published =>
      ⟨rfl, published⟩

/-- An error may have used up numbers. -/
theorem recount {publisher : Publisher} (rests : engine.publisher.AtRest → publisher.AtRest)
    (issued : engine.publisher.issued ≤ publisher.issued) (counters : BatchCounters) :
    Standing config batches { engine with publisher, counters } where
  sameConfig := standing.sameConfig
  pool := standing.pool
  made := standing.made
  ready := fun isOpen => (standing.ready isOpen).recount rests issued counters

theorem commits {batch : Batch} {late : Bool} {receipt : Receipt} {next : Engine}
    (done : engine.commit batch late = (.ok receipt, next)) :
    next.Standing config (batches ++ [batch]) := by
  rcases standing.commit_cases batch late with
    refused | ⟨isOpen, hasNumber, introduction, proposed, published⟩
  · obtain ⟨error, publisher, counters, same, -⟩ := refused
    rw [same] at done
    cases done
  · obtain ⟨failures, counters, publisher, same, rests, issued⟩ := published
    rw [same] at done
    cases done
    have ready := standing.ready isOpen
    obtain ⟨valid, spliced⟩ := next_of_proposal? ready proposed
    refine ⟨standing.sameConfig, standing.pool, ?_, fun _ => ?_⟩
    · exact standing.made.introduce standing.sameConfig standing.pool standing.made.reachable
        .refl proposed (Snapshot.introduce_of_free introduction (ready.free hasNumber))
    · rw [spliced]
      exact ready.splice (proper_contribution valid) rests issued counters

theorem fails {batch : Batch} {late : Bool} {error : IndexError} {next : Engine}
    (done : engine.commit batch late = (.error error, next)) : next.Standing config batches := by
  rcases standing.commit_cases batch late with refused | ⟨_, _, _, _, published⟩
  · obtain ⟨error, publisher, counters, same, rests, issued, -⟩ := refused
    rw [same] at done
    cases done
    exact standing.recount rests issued counters
  · obtain ⟨failures, counters, publisher, same, -⟩ := published
    rw [same] at done
    cases done

theorem others {later : List Batch} {root : Snapshot} {publisher : Publisher}
    (counters : BatchCounters) (made : root.MadeOf config later) (rests : publisher.AtRest)
    (issued : ∀ listed ∈ root.segmentIds, listed ≤ publisher.issued)
    (version : root.version ≤ publisher.issued) :
    Standing config later { engine with root, publisher, counters } where
  sameConfig := standing.sameConfig
  pool := standing.pool
  made := made
  ready := fun isOpen => ⟨isOpen, standing.pool.numbered, rests, made.sound, issued, version⟩

theorem closes : engine.close.2.Standing config batches := by
  unfold close
  by_cases isClosed : engine.closed
  · rw [if_pos isClosed]
    exact standing
  · rw [if_neg isClosed]
    have ready := standing.ready (Bool.not_eq_true _ ▸ isClosed)
    refine ⟨standing.sameConfig, ?_, ?_, fun isOpen => nomatch isOpen⟩
    · show (if engine.ownsPool then engine.pool.close else engine.pool).Reachable
      split
      · exact standing.pool.close
      · exact standing.pool
    · show (engine.publisher.beginClose.settle engine.root).1.MadeOf config batches
      rw [(ready.rests.settle_beginClose _).1]
      exact standing.made

theorem sharesPool {pool : WorkerPool} (used : pool.Reachable) :
    Standing config batches { engine with pool } where
  sameConfig := standing.sameConfig
  pool := used
  made := standing.made
  ready := fun isOpen => { standing.ready isOpen with numbered := used.numbered }

end Standing

variable {config : Config} {batches : List Batch} {engine : Engine}

theorem Reached.standing (reached : engine.Reached config batches) :
    engine.Standing config batches := by
  induction reached with
  | opened opened => exact standing_of_opened opened
  | commits _ done ih => exact ih.commits done
  | fails _ done ih => exact ih.fails done
  | others _ _ _ made rests issued version ih => exact ih.others _ made rests issued version
  | closes _ ih => exact ih.closes
  | sharesPool _ _ used _ ih => exact ih.sharesPool used

/-- Batches that are committed one after the other, none of them in vain. -/
theorem Reached.commitAll (reached : engine.Reached config batches) {more : List Batch}
    {receipts : List Receipt} (done : (engine.commitAll more).1 = receipts.map .ok) :
    (engine.commitAll more).2.Reached config (batches ++ more) := by
  induction more generalizing engine batches receipts with
  | nil =>
    rw [List.append_nil]
    exact reached
  | cons first rest ih =>
    cases receipts with
    | nil => cases done
    | cons receipt later =>
      obtain ⟨firstDone, restDone⟩ := List.cons.inj done
      rw [List.append_cons]
      exact ih (reached.commits (Prod.ext firstDone rfl)) restDone

end Engine

end TextIndex
