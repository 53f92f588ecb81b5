import TextIndex.Proofs.Engine.History
import TextIndex.Proofs.Snapshot.Counting

/-!
# The run of an index, edition by edition

Each batch that is committed makes an edition of the index: a segment under a number, a report of
what became hidden, and the next snapshot. The chronicle of all editions tells what is hidden in
each snapshot of the run. A document is hidden in the segment that brought it exactly if a later
batch touched its external id: removed it, or put it again in a form that can be analyzed.

* `Chronicle`: the runs, by their editions.
* `Chronicle.exists_of_made`: every snapshot that batches lead to has such a run.
* `Edition.Follows`, `Chronicle.follows`: what one edition is made of.
* `Snapshot.HidesExactly`: what the editions tell about a snapshot.
* `Chronicle.deletions_exact`: every snapshot of a run hides exactly what it has to.
-/

namespace TextIndex

/-- A batch that was committed and what came of it. -/
structure Edition where
  batch : Batch
  /-- The number of its segment. -/
  id : Nat
  segment : Segment
  report : IntroductionReport
  snapshot : Snapshot

namespace Edition

/-- The segment that an edition adds, unless that has no documents. -/
def added (edition : Edition) : List (Nat × Segment) :=
  if edition.segment.docCount = 0 then [] else [(edition.id, edition.segment)]

/-- What an edition is made of: the snapshot before it and the contribution of its batch. -/
structure Follows (edition : Edition) (before : Snapshot) (writer : Engine) : Prop where
  valid : edition.batch.validate = .ok ()
  clear : before.blocking? edition.id = none
  segment : edition.segment = (writer.contribution edition.batch).segment
  obsoleted : edition.report.obsoleted =
    before.visibleOf (writer.contribution edition.batch).touched
  snapshot : edition.snapshot = before.splice edition.id (writer.contribution edition.batch)

end Edition

/-- The snapshot after the given editions. -/
def latest (editions : List Edition) : Snapshot :=
  (editions.getLast?.map (·.snapshot)).getD .empty

/-- The snapshot after so many of the given editions. -/
def snapshotAt (editions : List Edition) (place : Nat) : Snapshot :=
  latest (editions.take place)

theorem latest_concat (editions : List Edition) (edition : Edition) :
    latest (editions ++ [edition]) = edition.snapshot := by
  unfold latest
  rw [List.getLast?_concat]
  rfl

/-- The runs of an index. Each batch was analyzed by an engine of the same configuration, and the
documents to hide were looked for in an earlier snapshot or in the one that it was introduced
into. -/
inductive Chronicle (config : Config) : List Edition → Prop
  | opened : Chronicle config []
  | introduce {editions : List Edition} {early next : Snapshot} {writer : Engine} {batch : Batch}
      {introduction : Introduction} {id : Nat} {report : IntroductionReport}
      (before : Chronicle config editions) (sameConfig : writer.config = config)
      (used : writer.pool.Reachable) (published : early.Reachable)
      (evolves : early.Evolves (latest editions))
      (proposed : writer.proposal? early batch = some introduction)
      (introduced : (latest editions).introduce id introduction = .ok (next, report)) :
      Chronicle config (editions ++ [⟨batch, id, introduction.segment, report, next⟩])

namespace Chronicle

variable {config : Config} {editions : List Edition}

theorem made (chronicle : Chronicle config editions) :
    (latest editions).MadeOf config (editions.map (·.batch)) := by
  induction chronicle with
  | opened => exact .opened
  | introduce _ sameConfig used published evolves proposed introduced ih =>
    rw [latest_concat, List.map_append]
    exact ih.introduce sameConfig used published evolves proposed introduced

/-- Every snapshot that batches lead to has a chronicle. -/
theorem exists_of_made {batches : List Batch} {snapshot : Snapshot}
    (made : snapshot.MadeOf config batches) :
    ∃ editions, Chronicle config editions ∧ latest editions = snapshot ∧
      editions.map (·.batch) = batches := by
  induction made with
  | opened => exact ⟨[], .opened, rfl, rfl⟩
  | @introduce _ _ early next writer batch introduction id report before sameConfig used published
      evolves proposed introduced ih =>
    obtain ⟨editions, chronicle, rfl, same⟩ := ih
    refine ⟨_, chronicle.introduce sameConfig used published evolves proposed introduced,
      latest_concat _ _, ?_⟩
    rw [List.map_append, same]
    rfl

/-- The first editions of a run are a run. -/
theorem take (chronicle : Chronicle config editions) (place : Nat) :
    Chronicle config (editions.take place) := by
  induction chronicle with
  | opened =>
    rw [List.take_nil]
    exact .opened
  | @introduce editions _ _ _ _ _ _ _ before sameConfig used published evolves proposed introduced
      ih =>
    by_cases within : place ≤ editions.length
    · rw [List.take_append_of_le_length within]
      exact ih
    · rw [List.take_of_length_le]
      · exact before.introduce sameConfig used published evolves proposed introduced
      · rw [List.length_append, List.length_singleton]
        omega

theorem follows_of_introduce {early next : Snapshot} {writer : Engine} {batch : Batch}
    {introduction : Introduction} {id : Nat} {report : IntroductionReport} {before : Snapshot}
    (used : writer.pool.Reachable) (published : early.Reachable)
    (evolves : early.Evolves before)
    (proposed : writer.proposal? early batch = some introduction)
    (introduced : before.introduce id introduction = .ok (next, report)) :
    Edition.Follows ⟨batch, id, introduction.segment, report, next⟩ before writer := by
  obtain ⟨valid, rfl⟩ := Engine.proposal?_eq_some used.numbered proposed
  obtain ⟨free, -, -⟩ := Snapshot.introduce_eq_ok introduced
  have spliced := Snapshot.introduce_obsoletesOf evolves published.ascending
    (writer.contribution batch) free
  obtain ⟨rfl, rfl⟩ := Prod.mk.inj (Except.ok.inj (introduced.symm.trans spliced))
  exact ⟨valid, (Snapshot.obstacle?_eq_none.mp free).2, rfl, rfl, rfl⟩

/-- What holds of no editions, and is preserved by one more edition, holds of every run. -/
theorem fold (chronicle : Chronicle config editions) (holds : List Edition → Prop)
    (opened : holds [])
    (follow : ∀ {editions : List Edition} {edition : Edition} {writer : Engine},
      writer.config = config → Chronicle config editions →
      edition.Follows (latest editions) writer → holds editions → holds (editions ++ [edition])) :
    holds editions := by
  induction chronicle with
  | opened => exact opened
  | introduce before sameConfig used published evolves proposed introduced ih =>
    exact follow sameConfig before
      (follows_of_introduce used published evolves proposed introduced) ih

/-! ### The places of a run -/

theorem snapshotAt_append {place : Nat} (within : place ≤ editions.length)
    (more : List Edition) : snapshotAt (editions ++ more) place = snapshotAt editions place := by
  unfold snapshotAt
  rw [List.take_append_of_le_length within]

/-- Every edition follows the ones before it. -/
theorem follows (chronicle : Chronicle config editions) : ∀ {place : Nat} {edition : Edition},
    editions[place]? = some edition → ∃ writer : Engine, writer.config = config ∧
      edition.Follows (snapshotAt editions place) writer := by
  refine chronicle.fold (fun editions => ∀ {place : Nat} {edition : Edition},
    editions[place]? = some edition → ∃ writer : Engine, writer.config = config ∧
      edition.Follows (snapshotAt editions place) writer) (fun held => nomatch held) ?_
  intro editions last writer sameConfig _ follows ih place edition held
  rcases held_of_concat held with ⟨earlier, heldBefore⟩ | ⟨rfl, rfl⟩
  · rw [snapshotAt_append (Nat.le_of_lt earlier)]
    exact ih heldBefore
  · refine ⟨writer, sameConfig, ?_⟩
    rw [snapshotAt_append (Nat.le_refl _)]
    unfold snapshotAt
    rwa [List.take_length]

theorem snapshotAt_succ {place : Nat} {edition : Edition}
    (held : editions[place]? = some edition) :
    snapshotAt editions (place + 1) = edition.snapshot := by
  unfold snapshotAt
  rw [List.take_add_one, held]
  exact latest_concat _ _

/-- Every snapshot of a run leads to the last one. -/
theorem evolves_latest (chronicle : Chronicle config editions) (place : Nat) :
    (snapshotAt editions place).Evolves (latest editions) := by
  induction chronicle with
  | opened =>
    unfold snapshotAt
    rw [List.take_nil]
    exact .refl
  | @introduce editions _ _ _ _ _ _ _ before _ _ _ _ _ introduced ih =>
    rw [latest_concat]
    by_cases earlier : place ≤ editions.length
    · rw [snapshotAt_append earlier]
      exact ih.introduce introduced
    · unfold snapshotAt
      rw [List.take_of_length_le, latest_concat]
      · exact .refl
      · rw [List.length_append, List.length_singleton]
        omega

/-- Earlier snapshots of a run lead to later ones. -/
theorem evolves (chronicle : Chronicle config editions) {first second : Nat}
    (order : first ≤ second) :
    (snapshotAt editions first).Evolves (snapshotAt editions second) := by
  have led := (chronicle.take second).evolves_latest first
  unfold snapshotAt at led ⊢
  rwa [List.take_take, Nat.min_eq_left order] at led

/-! ### What the editions tell -/

/-- The segments that are listed are those of the editions that have documents. -/
theorem contents (chronicle : Chronicle config editions) :
    (latest editions).contents = editions.flatMap (·.added) := by
  refine chronicle.fold (fun editions =>
    (latest editions).contents = editions.flatMap (·.added)) rfl ?_
  intro editions edition writer _ _ follows ih
  rw [latest_concat, follows.snapshot, Snapshot.contents_splice, ih, List.flatMap_append,
    List.flatMap_singleton]
  unfold Introduction.added Edition.added
  rw [follows.segment]

end Chronicle

namespace Snapshot

/-- What is hidden in the segment that an edition brought is what the later editions touch, and no
more. -/
def HidesFor (snapshot : Snapshot) (config : Config) (edition : Edition) (later : List Edition) :
    Prop :=
  ∃ view ∈ snapshot.segments, view.id = edition.id ∧ view.segment = edition.segment ∧
    ∀ doc, doc ∈ view.hidden ↔ ∃ id, edition.segment.externalId? doc = some id ∧
      ∃ other ∈ later, other.batch.Touches config id

/-- One more edition hides what it touches. -/
theorem HidesFor.splice {snapshot : Snapshot} {edition next : Edition} {later : List Edition}
    {writer : Engine} (sound : snapshot.Sound) (follows : next.Follows snapshot writer)
    (hides : snapshot.HidesFor writer.config edition later) :
    next.snapshot.HidesFor writer.config edition (later ++ [next]) := by
  obtain ⟨view, member, sameId, sameSegment, hidden⟩ := hides
  rw [follows.snapshot]
  refine ⟨_, List.mem_append_left _ (List.mem_map_of_mem member), sameId, sameSegment,
    fun doc => ?_⟩
  have touched : doc ∈ view.segment.docNumbers (writer.contribution next.batch).touched ↔
      ∃ id, edition.segment.externalId? doc = some id ∧ next.batch.Touches writer.config id := by
    rw [Segment.mem_docNumbers (sound.segments view member).finds, sameSegment]
    simp only [Engine.mem_touched_contribution, and_comm]
  show doc ∈ view.hidden ∪ _ ↔ _
  rw [Std.ExtTreeSet.mem_union_iff, hidden doc, touched, ← exists_or]
  refine exists_congr fun id => ?_
  rw [← and_or_left]
  simp [or_and_right, exists_or]

/-- A new segment has nothing hidden in it. -/
theorem hidesFor_own {snapshot : Snapshot} {edition : Edition} {writer : Engine}
    (follows : edition.Follows snapshot writer) (documents : edition.segment.docCount ≠ 0)
    (config : Config) : edition.snapshot.HidesFor config edition [] := by
  rw [follows.snapshot]
  refine ⟨⟨edition.id, edition.segment, ∅⟩, List.mem_append_right _ ?_, rfl, rfl,
    fun doc => ?_⟩
  · unfold Introduction.added
    rw [← follows.segment, if_neg documents]
    exact List.mem_singleton_self _
  · simp

/-- A snapshot lists the segments of the editions and hides exactly what it has to. -/
structure HidesExactly (snapshot : Snapshot) (config : Config) (editions : List Edition) :
    Prop where
  ascending : snapshot.Ascending
  occupied : ∀ view ∈ snapshot.segments, view.segment.docCount ≠ 0
  contents : snapshot.contents = editions.flatMap (·.added)
  hidden : ∀ (place : Nat) (edition : Edition), editions[place]? = some edition →
    edition.segment.docCount ≠ 0 → snapshot.HidesFor config edition (editions.drop (place + 1))
  bounded : ∀ view ∈ snapshot.segments, ∀ doc ∈ view.hidden, doc < view.segment.docCount
  /-- So the number of visible documents of a segment does not wrap below zero. -/
  visibleCount : ∀ view ∈ snapshot.segments, view.hidden.size ≤ view.segment.docCount ∧
    view.visibleCount = UInt64.ofNat (view.segment.docCount - view.hidden.size)
  docCount : snapshot.docCount = UInt64.ofNat snapshot.liveCount

end Snapshot

/-- An edition changes the number of visible documents by those of its segment and those that it
reports as newly hidden. -/
structure Edition.Balances (edition : Edition) (before after : Snapshot) : Prop where
  made : after = edition.snapshot
  liveCount : after.liveCount + edition.report.obsoleted =
    before.liveCount + edition.segment.docCount
  docCount : after.docCount = before.docCount + UInt64.ofNat edition.segment.docCount -
    UInt64.ofNat edition.report.obsoleted

namespace Chronicle

variable {config : Config} {editions : List Edition}

theorem hidesFor (chronicle : Chronicle config editions) :
    ∀ (place : Nat) (edition : Edition), editions[place]? = some edition →
      edition.segment.docCount ≠ 0 →
      (latest editions).HidesFor config edition (editions.drop (place + 1)) := by
  refine chronicle.fold (fun editions => ∀ (place : Nat) (edition : Edition),
    editions[place]? = some edition → edition.segment.docCount ≠ 0 →
      (latest editions).HidesFor config edition (editions.drop (place + 1)))
    (fun _ _ held => nomatch held) ?_
  rintro editions last writer rfl before follows ih place edition held documents
  rw [latest_concat]
  rcases held_of_concat held with ⟨earlier, heldBefore⟩ | ⟨rfl, rfl⟩
  · rw [List.drop_append_of_le_length earlier]
    exact (ih place edition heldBefore documents).splice before.made.sound follows
  · rw [List.drop_of_length_le]
    · exact Snapshot.hidesFor_own follows documents _
    · exact Nat.le_of_eq List.length_append

/-- The last snapshot of a run hides exactly what it has to. -/
theorem hidesExactly (chronicle : Chronicle config editions) :
    (latest editions).HidesExactly config editions where
  ascending := chronicle.made.sound.ascending
  occupied := by
    intro view member
    have listed : (view.id, view.segment) ∈ (latest editions).contents := List.mem_map_of_mem member
    rw [chronicle.contents] at listed
    obtain ⟨edition, -, added⟩ := List.mem_flatMap.mp listed
    unfold Edition.added at added
    split at added
    · cases added
    · next documents =>
      obtain ⟨-, same⟩ := Prod.mk.inj (List.mem_singleton.mp added)
      rwa [same]
  contents := chronicle.contents
  hidden := chronicle.hidesFor
  bounded := chronicle.made.sound.hidden
  visibleCount := fun view member =>
    have bounded := chronicle.made.sound.hidden view member
    ⟨SegmentView.size_hidden_le bounded, SegmentView.visibleCount_eq_liveCount bounded⟩
  docCount := chronicle.made.sound.docCount_eq_liveCount

theorem balances (chronicle : Chronicle config editions) {place : Nat} {edition : Edition}
    (held : editions[place]? = some edition) :
    edition.Balances (snapshotAt editions place) (snapshotAt editions (place + 1)) := by
  obtain ⟨writer, -, follows⟩ := chronicle.follows held
  have before := (chronicle.take place).made.sound
  have after := (chronicle.take (place + 1)).made.sound
  have liveCount : (snapshotAt editions (place + 1)).liveCount + edition.report.obsoleted =
      (snapshotAt editions place).liveCount + edition.segment.docCount := by
    rw [snapshotAt_succ held, follows.snapshot, follows.obsoleted, follows.segment]
    exact before.liveCount_splice follows.clear (Engine.proper_contribution follows.valid)
  refine ⟨snapshotAt_succ held, liveCount, ?_⟩
  unfold snapshotAt at *
  rw [after.docCount_eq_liveCount, before.docCount_eq_liveCount, ← UInt64.ofNat_add, ← liveCount,
    UInt64.ofNat_add, UInt64.add_sub_cancel]

/-- **What is hidden is exact, and it only grows.** In every snapshot of a run, the listed segments
are in order and not empty, and a document is hidden in one exactly if a later batch touched its
external id. Every snapshot continues the earlier ones, with more hidden, and every edition keeps
the balance of visible documents. -/
theorem deletions_exact (chronicle : Chronicle config editions) :
    (∀ place, (snapshotAt editions place).HidesExactly config (editions.take place)) ∧
      (∀ first second, first ≤ second →
        (snapshotAt editions first).contents <+: (snapshotAt editions second).contents ∧
          (snapshotAt editions first).Grows (snapshotAt editions second)) ∧
      ∀ (place : Nat) (edition : Edition), editions[place]? = some edition →
        edition.Balances (snapshotAt editions place) (snapshotAt editions (place + 1)) :=
  ⟨fun place => (chronicle.take place).hidesExactly,
    fun _ _ order => ⟨(chronicle.evolves order).contents_extend, (chronicle.evolves order).grows⟩,
    fun _ _ => chronicle.balances⟩

/-- A commit makes the next edition. -/
theorem commit (chronicle : Chronicle config editions) {batches : List Batch} {engine next : Engine}
    (standing : engine.Standing config batches) (here : latest editions = engine.root)
    {batch : Batch} {late : Bool} {receipt : Receipt}
    (done : engine.commit batch late = (.ok receipt, next)) :
    ∃ edition : Edition, edition.batch = batch ∧ edition.id = receipt.segment ∧
      edition.snapshot = next.root ∧ Chronicle config (editions ++ [edition]) := by
  rcases standing.commit_cases batch late with
    refused | ⟨isOpen, hasNumber, introduction, proposed, published⟩
  · obtain ⟨error, publisher, counters, same, -⟩ := refused
    rw [same] at done
    cases done
  · obtain ⟨failures, counters, publisher, same, -⟩ := published
    rw [same] at done
    cases done
    have introduced := Snapshot.introduce_of_free introduction
      ((standing.ready isOpen).free hasNumber)
    rw [← here] at introduced proposed
    exact ⟨_, rfl, rfl, by rw [here], chronicle.introduce standing.sameConfig standing.pool
      chronicle.made.reachable .refl proposed introduced⟩

/-- Commits one after the other, none of them in vain, make the next editions. -/
theorem commitAll {more : List Batch} : ∀ {editions : List Edition} {batches : List Batch}
    {engine : Engine} {receipts : List Receipt}, Chronicle config editions →
    engine.Standing config batches → latest editions = engine.root →
    (engine.commitAll more).1 = receipts.map .ok →
    ∃ later : List Edition, later.map (·.batch) = more ∧
      later.map (·.id) = receipts.map (·.segment) ∧ Chronicle config (editions ++ later) ∧
      latest (editions ++ later) = (engine.commitAll more).2.root := by
  induction more with
  | nil =>
    intro editions batches engine receipts chronicle standing here done
    obtain rfl := List.map_eq_nil_iff.mp done.symm
    refine ⟨[], rfl, rfl, ?_, ?_⟩
    · rwa [List.append_nil]
    · rwa [List.append_nil]
  | cons first rest ih =>
    intro editions batches engine receipts chronicle standing here done
    cases receipts with
    | nil => cases done
    | cons receipt others =>
      obtain ⟨firstDone, restDone⟩ := List.cons.inj done
      have committed : engine.commit first = (.ok receipt, (engine.commit first).2) :=
        Prod.ext firstDone rfl
      obtain ⟨edition, sameBatch, sameId, made, goesOn⟩ := chronicle.commit standing here committed
      obtain ⟨later, batches, ids, whole, root⟩ := ih goesOn (standing.commits committed)
        ((latest_concat _ _).trans made) restDone
      rw [List.append_assoc] at whole root
      exact ⟨edition :: later, congrArg₂ List.cons sameBatch batches,
        congrArg₂ List.cons sameId ids, whole, root⟩

/-- Two documents are put, one of them is replaced, and the other is removed. -/
def replacedAndRemoved : List Batch :=
  [(Batch.empty.put {} "a").2, (Batch.empty.put {} "b").2, (Batch.empty.put {} "a").2,
    Batch.empty.remove "b"]

theorem deletions_exact_replacedAndRemoved :
    ∃ editions : List Edition, Chronicle (.standard 1) editions ∧
      editions.map (·.batch) = replacedAndRemoved ∧
      (latest editions).segments.map (fun view => (view.id, view.hidden.toList)) =
        [(1, [0]), (2, [0]), (3, [])] ∧
      ∀ place, (snapshotAt editions place).HidesExactly (.standard 1) (editions.take place) := by
  have done : (Engine.standard.commitAll replacedAndRemoved).1 =
      [⟨1, 1, []⟩, ⟨2, 2, []⟩, ⟨3, 3, []⟩, ⟨4, 4, []⟩].map .ok := by decide +kernel
  obtain ⟨editions, batches, -, chronicle, root⟩ :=
    commitAll .opened (Engine.standing_of_opened (.own Engine.openOwn_standard)) rfl done
  refine ⟨editions, chronicle, batches, ?_, chronicle.deletions_exact.1⟩
  rw [List.nil_append] at root
  rw [root]
  decide +kernel

end Chronicle

end TextIndex
