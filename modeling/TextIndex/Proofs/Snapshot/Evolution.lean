import Mathlib.Data.List.Nodup
import TextIndex.Index.Snapshot
import TextIndex.Proofs.KeyedFold

/-!
# How snapshots evolve

Each introduction makes a snapshot from the one before. The numbers of the listed segments ascend,
and a segment that is listed once stays listed with its contents, in its place. So whoever looked
for the documents to hide in an earlier snapshot knows them for all segments of that snapshot, for
good, and only the later segments have to be looked through.

* `Snapshot.Evolves`: that introductions lead from one snapshot to another.
* `Snapshot.Evolves.contents_extend`: the listed segments stay.
* `Snapshot.introduce_obsoletes_of_earlier`: it makes no difference against which earlier snapshot
  the documents to hide were looked for.
-/

namespace TextIndex

open TextIndex.Number

namespace Introduction

/-- The introduction with other documents to hide named beforehand. -/
def withObsoletes (introduction : Introduction)
    (obsoletes : Std.ExtTreeMap Nat (Std.ExtTreeSet Nat)) : Introduction :=
  { introduction with obsoletes }

/-- The segments that an introduction adds: its own, unless that has no documents. -/
def added (introduction : Introduction) (id : Nat) : List (Nat × Segment) :=
  if introduction.segment.docCount = 0 then [] else [(id, introduction.segment)]

theorem fst_of_mem_added {introduction : Introduction} {id : Nat} {entry : Nat × Segment}
    (member : entry ∈ introduction.added id) : entry.1 = id := by
  unfold added at member
  split at member
  · cases member
  · rw [List.mem_singleton.mp member]

end Introduction

namespace Snapshot

/-- The numbers of the listed segments. -/
def segmentIds (snapshot : Snapshot) : List Nat :=
  snapshot.segments.map (·.id)

/-- The listed segments with their numbers, without what is hidden in them. -/
def contents (snapshot : Snapshot) : List (Nat × Segment) :=
  snapshot.segments.map fun view => (view.id, view.segment)

/-- The numbers of the listed segments ascend. -/
def Ascending (snapshot : Snapshot) : Prop :=
  snapshot.segmentIds.Pairwise (· < ·)

/-- Introductions lead from one snapshot to another. -/
inductive Evolves (first : Snapshot) : Snapshot → Prop
  | refl : Evolves first first
  | introduce {second third : Snapshot} {id : Nat} {introduction : Introduction}
      {report : IntroductionReport} (earlier : Evolves first second)
      (introduced : second.introduce id introduction = .ok (third, report)) : Evolves first third

/-- Introductions lead to the snapshot from that of an index just opened. -/
def Reachable (snapshot : Snapshot) : Prop :=
  Evolves .empty snapshot

/-! ### One introduction -/

/-- The snapshot that follows when nothing stands in the way of the introduction. -/
def next (snapshot : Snapshot) (id : Nat) (introduction : Introduction) : Snapshot where
  version := snapshot.version + 1
  segments := snapshot.nextSegments id introduction
  metadata := introduction.metadata.apply snapshot.metadata

/-- A segment can be introduced if there is a next version and no number stands in its way. -/
theorem obstacle?_eq_none {snapshot : Snapshot} {id : Nat} :
    snapshot.obstacle? id = none ↔
      snapshot.version + 1 < UInt64.size ∧ snapshot.blocking? id = none := by
  unfold obstacle? hasNext
  split
  · next following => simpa using fun _ => of_decide_eq_true following
  · next last => simpa using fun following => absurd (decide_eq_true following) last

theorem obstacle?_of_last {snapshot : Snapshot} {id : Nat}
    (isLast : UInt64.size ≤ snapshot.version + 1) :
    snapshot.obstacle? id = some .versionsUsedUp := by
  unfold obstacle? hasNext
  rw [if_neg (by simpa using isLast)]

theorem obstacle?_of_blocking {snapshot : Snapshot} {id last : Nat}
    (follows : snapshot.version + 1 < UInt64.size) (blocked : snapshot.blocking? id = some last) :
    snapshot.obstacle? id = some (.outOfOrder id last) := by
  unfold obstacle? hasNext
  rw [if_pos (decide_eq_true follows), blocked]
  rfl

theorem introduce_of_obstacle {snapshot : Snapshot} {id : Nat} {fault : IntroductionFault}
    (introduction : Introduction) (obstructed : snapshot.obstacle? id = some fault) :
    snapshot.introduce id introduction = .error fault := by
  unfold introduce
  rw [obstructed]

theorem introduce_of_free {snapshot : Snapshot} {id : Nat} (introduction : Introduction)
    (free : snapshot.obstacle? id = none) :
    snapshot.introduce id introduction =
      .ok (snapshot.next id introduction, introduction.report snapshot.segments) := by
  unfold introduce next
  rw [free]

/-- What is known of an introduction that was made. -/
theorem introduce_eq_ok {snapshot second : Snapshot} {id : Nat} {introduction : Introduction}
    {report : IntroductionReport}
    (introduced : snapshot.introduce id introduction = .ok (second, report)) :
    snapshot.obstacle? id = none ∧ second = snapshot.next id introduction ∧
      report = introduction.report snapshot.segments := by
  cases obstacle : snapshot.obstacle? id with
  | some fault =>
    rw [introduce_of_obstacle introduction obstacle] at introduced
    cases introduced
  | none =>
    rw [introduce_of_free introduction obstacle] at introduced
    cases introduced
    exact ⟨rfl, rfl, rfl⟩

/-- Nothing stands in the way of a number above all listed ones. -/
theorem blocking?_eq_none_of_above {snapshot : Snapshot} {id : Nat}
    (above : ∀ listed ∈ snapshot.segmentIds, listed < id) : snapshot.blocking? id = none := by
  unfold blocking?
  rw [Option.filter_eq_none_iff]
  intro last isLast
  obtain ⟨view, lastView, rfl⟩ := Option.map_eq_some_iff.mp isLast
  have listed : view.id ∈ snapshot.segmentIds :=
    List.mem_map_of_mem (List.mem_of_getLast? lastView)
  have := above _ listed
  simp only [decide_eq_true_eq]
  omega

/-- In ascending order, a number that nothing stands in the way of is above all listed ones. -/
theorem above_of_blocking?_eq_none {snapshot : Snapshot} (ascending : snapshot.Ascending) {id : Nat}
    (clear : snapshot.blocking? id = none) : ∀ listed ∈ snapshot.segmentIds, listed < id := by
  intro listed member
  unfold Ascending segmentIds at *
  unfold blocking? at clear
  rw [← List.getLast?_map, Option.filter_eq_none_iff] at clear
  rcases List.eq_nil_or_concat (snapshot.segments.map (·.id)) with isEmpty | ⟨earlier, last, split⟩
  · rw [isEmpty] at member
    cases member
  · rw [split] at ascending member clear
    simp only [List.concat_eq_append, List.pairwise_append, List.mem_append, List.mem_singleton,
      List.getLast?_append, List.getLast?_singleton, Option.some_or, Option.some.injEq,
      forall_eq', decide_eq_true_eq] at ascending member clear
    rcases member with before | rfl
    · have := ascending.2.2 listed before last rfl
      omega
    · omega

theorem contents_next (snapshot : Snapshot) (id : Nat) (introduction : Introduction) :
    (snapshot.next id introduction).contents = snapshot.contents ++ introduction.added id := by
  unfold contents next nextSegments Introduction.added
  by_cases isEmpty : introduction.segment.docCount = 0
  · simp [isEmpty, SegmentView.hide]
  · simp [isEmpty, SegmentView.hide]

theorem segmentIds_eq (snapshot : Snapshot) :
    snapshot.segmentIds = snapshot.contents.map (·.1) := by
  simp [segmentIds, contents]

theorem ascending_empty : Ascending empty :=
  List.Pairwise.nil

theorem Ascending.next {snapshot : Snapshot} (ascending : snapshot.Ascending) {id : Nat}
    (clear : snapshot.blocking? id = none) (introduction : Introduction) :
    (snapshot.next id introduction).Ascending := by
  have above := above_of_blocking?_eq_none ascending clear
  unfold Ascending at *
  rw [segmentIds_eq, contents_next, List.map_append, ← segmentIds_eq, List.pairwise_append]
  refine ⟨ascending, ?_, ?_⟩
  · unfold Introduction.added
    split
    · exact List.Pairwise.nil
    · exact List.pairwise_singleton _ _
  · intro listed member added isAdded
    obtain ⟨entry, ofIntroduction, rfl⟩ := List.mem_map.mp isAdded
    rw [Introduction.fst_of_mem_added ofIntroduction]
    exact above listed member

/-- A number above that of an introduction is as much in order after it as before. -/
theorem blocking?_next {snapshot : Snapshot} {id other : Nat}
    (clear : snapshot.blocking? other = none) (later : id < other) (introduction : Introduction) :
    (snapshot.next id introduction).blocking? other = none := by
  unfold blocking? at *
  rw [← List.getLast?_map] at *
  show ((snapshot.next id introduction).segmentIds.getLast?.filter (other ≤ ·)) = none
  rw [segmentIds_eq, contents_next, List.map_append, ← segmentIds_eq]
  unfold Introduction.added
  split
  · rw [List.map_nil, List.append_nil]
    exact clear
  · rw [List.map_singleton, List.getLast?_concat]
    refine Option.filter_eq_none_iff.mpr fun last isLast => ?_
    cases isLast
    simpa using later

/-! ### Any number of introductions -/

theorem Evolves.trans {first second third : Snapshot} (earlier : Evolves first second)
    (later : Evolves second third) : Evolves first third := by
  induction later with
  | refl => exact earlier
  | introduce _ introduced ih => exact ih.introduce introduced

/-- What is listed stays listed, with its contents and in its place. -/
theorem Evolves.contents_extend {first second : Snapshot} (evolves : Evolves first second) :
    first.contents <+: second.contents := by
  induction evolves with
  | refl => exact List.prefix_rfl
  | introduce _ introduced ih =>
    obtain ⟨_, rfl, _⟩ := introduce_eq_ok introduced
    rw [contents_next]
    exact ih.trans (List.prefix_append _ _)

theorem Evolves.ascending {first second : Snapshot} (evolves : Evolves first second)
    (start : first.Ascending) : second.Ascending := by
  induction evolves with
  | refl => exact start
  | introduce _ introduced ih =>
    obtain ⟨free, rfl, _⟩ := introduce_eq_ok introduced
    exact ih.next (obstacle?_eq_none.mp free).2 _

theorem Reachable.ascending {snapshot : Snapshot} (reachable : snapshot.Reachable) :
    snapshot.Ascending :=
  Evolves.ascending reachable ascending_empty

/-! ### Looking for the documents to hide -/

section Looking

variable (ids : List String)

/-- Each segment is looked through on its own. -/
theorem changesKey_obsoletes : ChangesKey SegmentView.id
    (fun view _ => some (view.segment.docNumbers ids))
    (fun obsoletes view => obsoletes.insert view.id (view.segment.docNumbers ids)) :=
  fun _ _ _ => Std.ExtTreeMap.getElem?_insert

/-- Nothing is named beforehand for a segment that is not listed. -/
theorem obsoletesOf_of_not_mem {snapshot : Snapshot} {id : Nat}
    (unlisted : id ∉ snapshot.segmentIds) : (snapshot.obsoletesOf ids)[id]? = none := by
  unfold obsoletesOf
  split
  · exact Std.ExtTreeMap.getElem?_empty
  · rw [(changesKey_obsoletes ids).foldl_of_not_mem _ unlisted, Std.ExtTreeMap.getElem?_empty]

/-- What is named beforehand for a segment that is listed. -/
theorem obsoletesOf_of_mem {snapshot : Snapshot} (ascending : snapshot.Ascending)
    (anybody : ids ≠ []) {view : SegmentView} (member : view ∈ snapshot.segments) :
    (snapshot.obsoletesOf ids)[view.id]? = some (view.segment.docNumbers ids) := by
  unfold obsoletesOf
  rw [if_neg anybody]
  exact (changesKey_obsoletes ids).foldl_of_mem ∅ (ascending.imp Nat.ne_of_lt) member

end Looking

/-! ### Hiding what was looked for earlier -/

/-- A listed segment keeps its contents under its number. -/
theorem Evolves.segment_eq {early late : Snapshot} (evolves : Evolves early late)
    (ascending : early.Ascending) {before after : SegmentView} (listed : before ∈ early.segments)
    (member : after ∈ late.segments) (same : before.id = after.id) :
    before.segment = after.segment := by
  have kept : (before.id, before.segment) ∈ late.contents :=
    evolves.contents_extend.subset (List.mem_map_of_mem listed)
  obtain ⟨view, viewMember, viewEq⟩ := List.mem_map.mp kept
  obtain ⟨sameId, sameSegment⟩ := Prod.mk.inj viewEq
  have distinct : late.segmentIds.Nodup := (evolves.ascending ascending).imp Nat.ne_of_lt
  have view_eq : view = after :=
    List.inj_on_of_nodup_map distinct viewMember member (sameId.trans same)
  rw [← sameSegment, view_eq]

/-- What was looked for in an earlier snapshot, completed by what is looked for now, is what would
be found by looking for everything now. -/
theorem hides_obsoletesOf {early late : Snapshot} (evolves : Evolves early late)
    (ascending : early.Ascending) (introduction : Introduction) {view : SegmentView}
    (member : view ∈ late.segments) :
    (introduction.withObsoletes (early.obsoletesOf introduction.touched)).hides view =
      view.segment.docNumbers introduction.touched := by
  unfold Introduction.hides Introduction.withObsoletes
  by_cases nobody : introduction.touched = []
  · simp only [nobody, obsoletesOf, if_pos, Std.ExtTreeMap.getElem?_empty]
    rfl
  -- A segment that the earlier snapshot lists is the same now; any other is looked through now.
  · by_cases listed : view.id ∈ early.segmentIds
    · obtain ⟨before, beforeMember, same⟩ := List.mem_map.mp listed
      rw [← same, obsoletesOf_of_mem _ ascending nobody beforeMember,
        evolves.segment_eq ascending beforeMember member same]
    · rw [obsoletesOf_of_not_mem _ listed]
      simp only [nobody, if_false]

/-- Exactly the segments are looked through that the earlier snapshot does not list. -/
theorem looksThrough_obsoletesOf {early : Snapshot} (ascending : early.Ascending)
    (introduction : Introduction) (view : SegmentView) :
    (introduction.withObsoletes (early.obsoletesOf introduction.touched)).looksThrough view =
      (!early.segmentIds.contains view.id && !introduction.touched.isEmpty) := by
  unfold Introduction.looksThrough Introduction.withObsoletes
  by_cases nobody : introduction.touched = []
  · simp [nobody]
  · congr 2
    rw [Std.ExtTreeMap.contains_eq_isSome_getElem?, Bool.eq_iff_iff, List.contains_iff_mem]
    by_cases listed : view.id ∈ early.segmentIds
    · obtain ⟨before, beforeMember, same⟩ := List.mem_map.mp listed
      rw [← same, obsoletesOf_of_mem _ ascending nobody beforeMember, same]
      simp [listed]
    · rw [obsoletesOf_of_not_mem _ listed]
      simp [listed]

/-- The snapshot that follows an introduction if the documents to hide are looked for now, whatever
was named beforehand. -/
def splice (snapshot : Snapshot) (id : Nat) (introduction : Introduction) : Snapshot where
  version := snapshot.version + 1
  segments :=
    (snapshot.segments.map fun view => view.hide (view.segment.docNumbers introduction.touched)) ++
      (introduction.added id).map fun entry => ⟨entry.1, entry.2, ∅⟩
  metadata := introduction.metadata.apply snapshot.metadata

/-- The number of documents with one of the given external ids that are not hidden yet. -/
def visibleOf (snapshot : Snapshot) (ids : List String) : Nat :=
  total (snapshot.segments.map fun view => (view.visibleNumbers ids).size)

/-- The number of segments that an earlier snapshot does not list. -/
def newerThan (snapshot early : Snapshot) : Nat :=
  snapshot.segments.countP fun view => !early.segmentIds.contains view.id

section Stale

variable {early late : Snapshot} (evolves : Evolves early late) (ascending : early.Ascending)
  (introduction : Introduction)

include evolves ascending

theorem next_obsoletesOf (id : Nat) :
    late.next id (introduction.withObsoletes (early.obsoletesOf introduction.touched)) =
      late.splice id introduction := by
  unfold next splice nextSegments Introduction.added
  congr 2
  · refine List.map_congr_left fun view member => ?_
    rw [hides_obsoletesOf evolves ascending introduction member]
  · show (if introduction.segment.docCount = 0 then _ else _) = _
    split <;> rfl

theorem report_obsoletesOf :
    (introduction.withObsoletes (early.obsoletesOf introduction.touched)).report late.segments =
      ⟨if introduction.touched = [] then 0 else late.newerThan early,
        late.visibleOf introduction.touched⟩ := by
  unfold Introduction.report visibleOf newerThan
  congr 1
  · rw [List.countP_congr fun view _ => by rw [looksThrough_obsoletesOf ascending]]
    split
    · next nobody => simp [nobody]
    · next anybody =>
      have notEmpty : introduction.touched.isEmpty = false := by simpa using anybody
      simp [notEmpty]
  · congr 1
    refine List.map_congr_left fun view member => ?_
    rw [hides_obsoletesOf evolves ascending introduction member]
    rfl

/-- Whatever earlier snapshot the documents to hide were looked for in, the introduction comes to
the same snapshot and hides as many documents. Only the segments that are newer than that snapshot
are looked through. -/
theorem introduce_obsoletesOf {id : Nat} (free : late.obstacle? id = none) :
    late.introduce id (introduction.withObsoletes (early.obsoletesOf introduction.touched)) =
      .ok (late.splice id introduction,
        ⟨if introduction.touched = [] then 0 else late.newerThan early,
          late.visibleOf introduction.touched⟩) := by
  rw [introduce_of_free _ free, next_obsoletesOf evolves ascending,
    report_obsoletesOf evolves ascending]

end Stale

theorem newerThan_self (snapshot : Snapshot) : snapshot.newerThan snapshot = 0 := by
  unfold newerThan
  rw [List.countP_eq_zero]
  intro view member
  have listed : view.id ∈ snapshot.segmentIds := List.mem_map_of_mem member
  simp [listed]

theorem newerThan_empty (snapshot : Snapshot) :
    snapshot.newerThan empty = snapshot.segments.length := by
  unfold newerThan
  rw [List.countP_eq_length]
  intro view _
  rfl

theorem obsoletesOf_empty (ids : List String) : empty.obsoletesOf ids = ∅ := by
  unfold obsoletesOf
  split <;> rfl

/-- **It makes no difference against which earlier snapshot the documents to hide were looked for.**
An introduction under any number, made in a later snapshot, comes to the same with what was found in
an earlier one, with what is found in the later one itself, and with nothing named beforehand. If
there is no further version or a listed number stands in the way, it fails for that, whatever was
named. Otherwise it comes to the same snapshot, in which all documents with the external ids are
hidden in all older segments, and to the same number of documents that become hidden. Only the
number of segments looked through differs: those that the earlier snapshot does not list, none, and
all. -/
theorem introduce_obsoletes_of_earlier {early late : Snapshot} (reachable : early.Reachable)
    (evolves : Evolves early late) (id : Nat) (introduction : Introduction) :
    (UInt64.size ≤ late.version + 1 → ∀ obsoletes,
      late.introduce id (introduction.withObsoletes obsoletes) = .error .versionsUsedUp) ∧
    (late.version + 1 < UInt64.size →
      match late.blocking? id with
      | some last => ∀ obsoletes,
        late.introduce id (introduction.withObsoletes obsoletes) = .error (.outOfOrder id last)
      | none =>
        late.introduce id (introduction.withObsoletes (early.obsoletesOf introduction.touched)) =
            .ok (late.splice id introduction,
              ⟨if introduction.touched = [] then 0 else late.newerThan early,
                late.visibleOf introduction.touched⟩) ∧
          late.introduce id (introduction.withObsoletes (late.obsoletesOf introduction.touched)) =
            .ok (late.splice id introduction, ⟨0, late.visibleOf introduction.touched⟩) ∧
          late.introduce id (introduction.withObsoletes ∅) =
            .ok (late.splice id introduction,
              ⟨if introduction.touched = [] then 0 else late.segments.length,
                late.visibleOf introduction.touched⟩)) := by
  have sinceOpening : Evolves empty late := Evolves.trans reachable evolves
  refine ⟨fun isLast obsoletes => introduce_of_obstacle _ (obstacle?_of_last isLast),
    fun follows => ?_⟩
  cases blocking : late.blocking? id with
  | some last => exact fun _ => introduce_of_obstacle _ (obstacle?_of_blocking follows blocking)
  | none =>
    have free := obstacle?_eq_none.mpr ⟨follows, blocking⟩
    refine ⟨introduce_obsoletesOf evolves reachable.ascending introduction free, ?_, ?_⟩
    · have now := introduce_obsoletesOf (Evolves.refl : Evolves late late)
        (sinceOpening.ascending ascending_empty) introduction free
      rwa [newerThan_self, ite_self] at now
    · have blind := introduce_obsoletesOf sinceOpening ascending_empty introduction free
      rwa [newerThan_empty, obsoletesOf_empty] at blind

/-- What puts a document without fields of its own. -/
def putting (id : String) : Introduction where
  segment := .ofAnalyzed [⟨id, Document.withIdentity { id := some id } id,
    [.ofTokens false [Analyzer.wholeToken id]]⟩]
  touched := [id]
  obsoletes := ∅
  metadata := ∅

/-- A document is put for the third time by a writer that saw the first of the two before. -/
theorem introduce_third_time :
    let early := empty.next 1 (putting "x")
    let late := early.next 2 (putting "x")
    early.Reachable ∧ Evolves early late ∧ late.version + 1 < UInt64.size ∧
      late.blocking? 3 = none ∧
      late.introduce 3 ((putting "x").withObsoletes (early.obsoletesOf ["x"])) =
        .ok (late.splice 3 (putting "x"), ⟨1, 1⟩) ∧
      late.introduce 3 ((putting "x").withObsoletes (late.obsoletesOf ["x"])) =
        .ok (late.splice 3 (putting "x"), ⟨0, 1⟩) ∧
      late.introduce 3 ((putting "x").withObsoletes ∅) =
        .ok (late.splice 3 (putting "x"), ⟨2, 1⟩) := by
  intro early late
  have reachable : early.Reachable :=
    Evolves.refl.introduce (introduce_of_free (putting "x") (by decide +kernel))
  have evolves : Evolves early late :=
    Evolves.refl.introduce (introduce_of_free (putting "x") (by decide +kernel))
  have follows : late.version + 1 < UInt64.size := by decide +kernel
  have clear : late.blocking? 3 = none := by decide +kernel
  have stale : (⟨if (putting "x").touched = [] then 0 else late.newerThan early,
      late.visibleOf (putting "x").touched⟩ : IntroductionReport) = ⟨1, 1⟩ := by decide +kernel
  have current : (⟨0, late.visibleOf (putting "x").touched⟩ : IntroductionReport) = ⟨0, 1⟩ := by
    decide +kernel
  have blind : (⟨if (putting "x").touched = [] then 0 else late.segments.length,
      late.visibleOf (putting "x").touched⟩ : IntroductionReport) = ⟨2, 1⟩ := by decide +kernel
  have same := (introduce_obsoletes_of_earlier reachable evolves 3 (putting "x")).2 follows
  rw [clear] at same
  rw [← stale, ← current, ← blind]
  exact ⟨reachable, evolves, follows, clear, same⟩

end Snapshot

end TextIndex
