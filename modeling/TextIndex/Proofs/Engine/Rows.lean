import TextIndex.Proofs.Analysis.Slots
import TextIndex.Proofs.Engine.History
import TextIndex.Query.Range
import TextIndex.Query.Term

/-!
# The rows of a snapshot

A query goes through the segments, through postings or through numbers, and leaves out what is
hidden. Whatever it looks for, it sees the same rows: one for each visible document, with its place
and with what it was analyzed to. Rows are never out of date: the document of a row is the one that
the committed batches left under its external id.

* `Catalog.Current`: that a document is what the maps hold, analyzed.
* `Snapshot.Lists`: that everything that queries see of a snapshot is in its rows.
* `Snapshot.MadeOf.exists_rows`: a snapshot made of batches has one row for each document.
* `Snapshot.Lists.exactly`: what is found by looking at each row.
-/

namespace TextIndex

/-! ### The documents of the maps, analyzed -/

namespace Catalog

/-- What the document that the maps hold under its external id is analyzed to. -/
def Current (catalog : Catalog) (config : Config) (analyzed : AnalyzedDocument) : Prop :=
  ∃ document, catalog.documents[analyzed.id]? = some document ∧
    analyzeDocument config.analyzers config.withPlaces (document.withIdentity analyzed.id) =
      .ok analyzed

variable {catalog : Catalog} {config : Config}

theorem Current.eq_of_id {first second : AnalyzedDocument} (isFirst : catalog.Current config first)
    (isSecond : catalog.Current config second) (same : first.id = second.id) : first = second := by
  obtain ⟨document, held, done⟩ := isFirst
  obtain ⟨other, otherHeld, otherDone⟩ := isSecond
  rw [same] at held done
  obtain rfl := Option.some.inj (held.symm.trans otherHeld)
  exact Except.ok.inj (done.symm.trans otherDone)

theorem current_commit_of_untouched {batch : Batch} {analyzed : AnalyzedDocument}
    (current : catalog.Current config analyzed) (untouched : ¬batch.Touches config analyzed.id) :
    (catalog.commit config batch).Current config analyzed := by
  obtain ⟨document, before, done⟩ := current
  exact ⟨document, (documents_commit_of_untouched untouched).trans before, done⟩

theorem current_commit_of_mem_analyzed {batch : Batch} {analyzed : AnalyzedDocument}
    (member : analyzed ∈ batch.analyzed config) :
    (catalog.commit config batch).Current config analyzed := by
  obtain ⟨document, accepted, -, done⟩ := Batch.exists_accepted_of_mem_analyzed member
  refine ⟨document, ?_, done⟩
  rw [documents_commit_of_touches (Batch.touches_of_accepted? accepted), accepted]

end Catalog

/-! ### Rows -/

/-- A visible document, with its place. -/
structure Row where
  segment : Nat
  doc : Nat
  analyzed : AnalyzedDocument

namespace Row

def id (row : Row) : String :=
  row.analyzed.id

/-- The occurrences of a term in a field of the document, if there are any. -/
def termMatch? (row : Row) (field term : String) : Option TermMatch :=
  (row.analyzed.posting? field term row.doc).map fun posting =>
    ⟨row.id, row.segment, row.doc, posting.frequency, posting.fieldLength⟩

/-- The match of a document that has a number of the range in the field. -/
def rangeMatch? (row : Row) (query : RangeQuery) : Option DocumentMatch :=
  if (row.analyzed.numbersOf query.field).any query.contains then some ⟨row.id, query.score⟩
  else none

end Row

namespace SegmentView

variable {view : SegmentView} {documents : List AnalyzedDocument}

/-- The visible documents among those that a segment holds. -/
def rows (view : SegmentView) (documents : List AnalyzedDocument) : List Row :=
  view.visible.filterMap fun doc => documents[doc]?.map fun analyzed => ⟨view.id, doc, analyzed⟩

theorem mem_rows {row : Row} : row ∈ view.rows documents ↔
    row.doc ∈ view.visible ∧ row.segment = view.id ∧ documents[row.doc]? = some row.analyzed := by
  unfold rows
  rw [List.mem_filterMap]
  constructor
  · rintro ⟨doc, isVisible, ofDoc⟩
    obtain ⟨analyzed, held, rfl⟩ := Option.map_eq_some_iff.mp ofDoc
    exact ⟨isVisible, rfl, held⟩
  · rintro ⟨isVisible, ofView, held⟩
    refine ⟨row.doc, isVisible, ?_⟩
    rw [held, Option.map_some, ← ofView]

section Tabulates

variable (tabulates : view.segment.Tabulates documents)

include tabulates

theorem visibleIds_eq : view.visibleIds = (view.rows documents).map (·.id) := by
  unfold visibleIds rows
  rw [List.map_filterMap]
  refine List.filterMap_congr fun doc _ => ?_
  rw [tabulates.externalId?, Option.map_map]
  rfl

theorem termMatches_eq (field term : String) :
    view.termMatches field term = (view.rows documents).filterMap (·.termMatch? field term) := by
  have postings : ((view.segment.postings? field term).getD #[]).toList =
      (List.range view.segment.docCount).filterMap fun doc =>
        documents[doc]?.bind (·.posting? field term doc) := by
    rw [tabulates.docCount]
    exact tabulates.postings field term
  unfold termMatches rows visible
  rw [postings, List.filterMap_filterMap, List.filterMap_filterMap, List.filterMap_filter]
  refine List.filterMap_congr fun doc _ => ?_
  simp only [tabulates.externalId?]
  cases held : documents[doc]? with
  | none => simp
  | some analyzed =>
    unfold Row.termMatch?
    cases posted : analyzed.posting? field term doc with
    | none => simp [posted]
    | some posting =>
      simp only [Option.bind_some, Option.map_some, posted, held,
        AnalyzedDocument.doc_of_posting? posted]
      cases view.isHidden doc <;> rfl

theorem matchesIn_eq (query : RangeQuery) :
    query.matchesIn view = (view.rows documents).filterMap (·.rangeMatch? query) := by
  unfold RangeQuery.matchesIn rows
  rw [List.filterMap_filterMap]
  refine List.filterMap_congr fun doc _ => ?_
  have numbers : (view.segment.numbers? query.field doc).getD [] =
      documents[doc]?.elim [] (·.numbersOf query.field) := tabulates.numbers query.field doc
  rw [numbers, tabulates.externalId?]
  cases documents[doc]? with
  | none => simp
  | some analyzed => rfl

end Tabulates

/-- A segment holds documents, and those that are not hidden in it are what the maps hold. -/
structure Shows (view : SegmentView) (config : Config) (catalog : Catalog)
    (documents : List AnalyzedDocument) : Prop where
  tabulates : view.segment.Tabulates documents
  current : ∀ doc analyzed, documents[doc]? = some analyzed → doc ∉ view.hidden →
    catalog.Current config analyzed

/-- What a batch replaces or removes is hidden, and the other documents are what they were. -/
theorem Shows.hide {config : Config} {catalog : Catalog}
    (shows : view.Shows config catalog documents) (finds : view.segment.FindsIds) {batch : Batch}
    {touched : List String}
    (touches : ∀ id, id ∈ touched ↔ batch.Touches config id) :
    (view.hide (view.segment.docNumbers touched)).Shows config (catalog.commit config batch)
      documents where
  tabulates := shows.tabulates
  current := by
    intro doc analyzed held visible
    have remains : doc ∉ view.hidden ∧ doc ∉ view.segment.docNumbers touched := by
      rw [← not_or, ← Std.ExtTreeSet.mem_union_iff]
      exact visible
    refine Catalog.current_commit_of_untouched (shows.current doc analyzed held remains.1) ?_
    intro isTouched
    refine remains.2 ((Segment.mem_docNumbers finds).mpr ⟨_, (touches _).mpr isTouched, ?_⟩)
    rw [shows.tabulates.externalId?, held, Option.map_some]

/-- What a batch puts is shown by a segment of its own. -/
theorem shows_own (config : Config) (catalog : Catalog) (batch : Batch) (id : Nat) :
    (⟨id, .ofAnalyzed (batch.analyzed config), ∅⟩ : SegmentView).Shows config
      (catalog.commit config batch) (Segment.inOrder (batch.analyzed config)) where
  tabulates := Segment.tabulates_ofAnalyzed _
  current := fun _ _ held _ => Catalog.current_commit_of_mem_analyzed
    (Segment.mem_inOrder.mp (List.mem_of_getElem? held))

end SegmentView

/-! ### The rows of a snapshot made of batches -/

namespace Snapshot

variable {snapshot : Snapshot} {config : Config} {batches : List Batch}

/-- In every segment, what is not hidden is what the committed batches come to. -/
theorem MadeOf.shows (made : snapshot.MadeOf config batches) : ∀ view ∈ snapshot.segments,
    ∃ documents, view.Shows config (.after config batches) documents := by
  refine made.fold (fun batches snapshot => ∀ view ∈ snapshot.segments,
    ∃ documents, view.Shows config (.after config batches) documents) nofun ?_
  rintro batches snapshot writer batch id rfl sound clear valid shows
  rw [Catalog.after_append]
  refine forall_segments_splice (fun view member => ?_) ?_
  · obtain ⟨documents, viewShows⟩ := shows view member
    exact ⟨documents, viewShows.hide (sound.segments view member).finds
      fun _ => Engine.mem_touched_contribution⟩
  · rw [Engine.segment_contribution]
    exact ⟨_, SegmentView.shows_own _ _ batch id⟩

/-- The visible documents among those that the segments hold. -/
def rows (snapshot : Snapshot) (documents : SegmentView → List AnalyzedDocument) : List Row :=
  snapshot.segments.flatMap fun view => view.rows (documents view)

section Tabulates

variable {documents : SegmentView → List AnalyzedDocument}
  (tabulates : ∀ view ∈ snapshot.segments, view.segment.Tabulates (documents view))

/-- What is picked from the rows of each segment is picked from all rows. -/
theorem flatMap_eq_filterMap {β : Type} {found : SegmentView → List β} {pick : Row → Option β}
    (each : ∀ view ∈ snapshot.segments,
      found view = (view.rows (documents view)).filterMap pick) :
    snapshot.segments.flatMap found = (snapshot.rows documents).filterMap pick := by
  unfold rows
  rw [List.filterMap_flatMap]
  exact List.flatMap_congr each

include tabulates

theorem visibleIds_perm_rows :
    snapshot.visibleIds.Perm ((snapshot.rows documents).map (·.id)) := by
  refine snapshot.visibleIds_perm.trans (List.Perm.of_eq ?_)
  unfold rows
  rw [List.map_flatMap]
  exact List.flatMap_congr fun view member => SegmentView.visibleIds_eq (tabulates view member)

/-- A row is where its document is visible. -/
theorem mem_locations_of_mem_rows (sound : snapshot.Sound) {row : Row}
    (member : row ∈ snapshot.rows documents) :
    (row.segment, row.doc) ∈ snapshot.locations row.id := by
  obtain ⟨view, viewMember, inView⟩ := List.mem_flatMap.mp member
  obtain ⟨isVisible, ofView, atDoc⟩ := SegmentView.mem_rows.mp inView
  refine List.mem_flatMap.mpr ⟨view, viewMember, List.mem_map.mpr ⟨row.doc, ?_, by rw [ofView]⟩⟩
  rw [Std.ExtTreeSet.mem_toList,
    SegmentView.mem_visibleNumbers (sound.segments view viewMember).finds]
  refine ⟨?_, (SegmentView.mem_visible.mp isVisible).2⟩
  rw [(tabulates view viewMember).externalId?, atDoc]
  rfl

end Tabulates

/-- Everything that queries see of a snapshot is in its rows: one for each document of the maps,
with the one place where it is visible. -/
structure Lists (snapshot : Snapshot) (config : Config) (catalog : Catalog) (rows : List Row) :
    Prop where
  termMatches : ∀ field term,
    snapshot.termMatches field term = rows.filterMap (·.termMatch? field term)
  rangeMatches : ∀ query : RangeQuery,
    snapshot.segments.flatMap query.matchesIn = rows.filterMap (·.rangeMatch? query)
  distinct : (rows.map (·.id)).Nodup
  current : ∀ row ∈ rows, catalog.Current config row.analyzed
  complete : ∀ id ∈ catalog.documents, ∃ row ∈ rows, row.id = id
  located : ∀ row ∈ rows, snapshot.locations row.id = [(row.segment, row.doc)]

/-- **A snapshot made of batches has one row for each document of the maps.** -/
theorem MadeOf.exists_rows (made : snapshot.MadeOf config batches) :
    ∃ rows, snapshot.Lists config (.after config batches) rows := by
  have represents := made.represents
  choose! documents shows using made.shows
  have tabulates (view : SegmentView) (member : view ∈ snapshot.segments) :=
    (shows view member).tabulates
  have ids := visibleIds_perm_rows tabulates
  refine ⟨snapshot.rows documents, fun field term => ?_, fun query => ?_, ?_, fun row member => ?_,
    fun id member => ?_, fun row member => ?_⟩
  · exact flatMap_eq_filterMap fun view member =>
      SegmentView.termMatches_eq (tabulates view member) field term
  · exact flatMap_eq_filterMap fun view member =>
      SegmentView.matchesIn_eq (tabulates view member) query
  · rw [← ids.nodup_iff, represents.visibleIds]
    exact Std.ExtTreeMap.nodup_keys
  · obtain ⟨view, viewMember, inView⟩ := List.mem_flatMap.mp member
    obtain ⟨isVisible, -, atDoc⟩ := SegmentView.mem_rows.mp inView
    exact (shows view viewMember).current _ _ atDoc (SegmentView.mem_visible.mp isVisible).2
  · rw [← List.mem_map, ← ids.mem_iff, represents.visibleIds]
    exact Std.ExtTreeMap.mem_keys.mpr member
  · have placed := mem_locations_of_mem_rows tabulates made.sound member
    have once : (snapshot.locations row.id).length ≤ 1 := by
      rw [represents.placed]
      split <;> omega
    obtain ⟨place, single⟩ :=
      List.length_eq_one_iff.mp (Nat.le_antisymm once (List.length_pos_of_mem placed))
    rw [single, List.mem_singleton] at placed
    rw [single, placed]

/-- The documents of the maps are those of the rows. -/
theorem Lists.current_iff {catalog : Catalog} {rows : List Row}
    (lists : snapshot.Lists config catalog rows) {analyzed : AnalyzedDocument} :
    catalog.Current config analyzed ↔ ∃ row ∈ rows, row.analyzed = analyzed := by
  constructor
  · intro current
    obtain ⟨document, held, -⟩ := id current
    have inMap : analyzed.id ∈ catalog.documents := by
      rw [Std.ExtTreeMap.mem_iff_isSome_getElem?, held]
      rfl
    obtain ⟨row, member, same⟩ := lists.complete _ inMap
    exact ⟨row, member, (lists.current row member).eq_of_id current same⟩
  · rintro ⟨row, member, rfl⟩
    exact lists.current row member

/-- Each document of the maps has been analyzed. -/
theorem Lists.existsUnique_current {catalog : Catalog} {rows : List Row}
    (lists : snapshot.Lists config catalog rows) {id : String} (held : id ∈ catalog.documents) :
    ∃! analyzed, catalog.Current config analyzed ∧ analyzed.id = id := by
  obtain ⟨row, member, rfl⟩ := lists.complete id held
  refine ⟨row.analyzed, ⟨lists.current row member, rfl⟩, ?_⟩
  rintro other ⟨current, sameId⟩
  exact current.eq_of_id (lists.current row member) sameId

end Snapshot

/-! ### Looking at each row -/

/-- The matches of exactly the external ids that are sought, in ascending order and none twice. -/
structure DocumentMatch.Exactly (found : List DocumentMatch) (score : Binary64)
    (sought : String → Prop) : Prop where
  ascending : found.Pairwise fun first second => compare first.id second.id = .lt
  mem : ∀ entry, entry ∈ found ↔ entry.score = score ∧ sought entry.id

/-- A query that looks at each row finds each document of the maps that it looks for, once. -/
theorem Snapshot.Lists.exactly {snapshot : Snapshot} {config : Config} {catalog : Catalog}
    {rows : List Row} (lists : snapshot.Lists config catalog rows)
    {pick : Row → Option DocumentMatch} {finds : AnalyzedDocument → Prop} {score : Binary64}
    (picks : ∀ row entry, pick row = some entry ↔ finds row.analyzed ∧ entry = ⟨row.id, score⟩) :
    DocumentMatch.Exactly (DocumentMatch.sorted (rows.filterMap pick)) score fun id =>
      ∃ analyzed, catalog.Current config analyzed ∧ analyzed.id = id ∧ finds analyzed where
  ascending := by
    refine pairwise_lt_mergeSort_key DocumentMatch.id (lists.distinct.sublist ?_)
    refine map_filterMap_sublist fun row _ entry picked => ?_
    rw [((picks row entry).mp picked).2]
  mem := by
    intro entry
    unfold DocumentMatch.sorted
    rw [List.mem_mergeSort, List.mem_filterMap]
    constructor
    · rintro ⟨row, member, picked⟩
      obtain ⟨isFound, rfl⟩ := (picks row entry).mp picked
      exact ⟨rfl, row.analyzed, lists.current row member, rfl, isFound⟩
    · rintro ⟨ofScore, analyzed, current, sameId, isFound⟩
      obtain ⟨row, member, rfl⟩ := lists.current_iff.mp current
      refine ⟨row, member, (picks row entry).mpr ⟨isFound, ?_⟩⟩
      cases entry
      cases sameId
      cases ofScore
      rfl

end TextIndex
