import TextIndex.Proofs.Engine.Rows

/-!
# What a range query finds

The numbers of a document are kept apart from its terms, and only those of fields that are indexed.
A range query finds each document that has one of its numbers in the range, once, whatever its other
numbers are and whatever numbers it had before.

* `RangeQuery.Within`: the range, bound by bound.
* `RangeQuery.search_eq_error_iff`: the queries that give an error.
* `Snapshot.MadeOf.range_search_exact`: what a range query finds.
-/

namespace TextIndex

/-! ### The range -/

namespace RangeQuery

variable {query : RangeQuery} {value : Binary64}

/-- A number lies in the range. The lower bound belongs to it unless the query says that it does
not, the upper bound only if the query says so, and a bound that is absent does not count. -/
structure Within (query : RangeQuery) (value : Binary64) : Prop where
  above : ∀ bound, query.min = some bound →
    if query.inclusiveMin = some false then bound.lt value else bound.le value
  below : ∀ bound, query.max = some bound →
    if query.inclusiveMax = some true then value.le bound else value.lt bound

theorem admitsAbove_iff : query.admitsAbove value ↔ ∀ bound, query.min = some bound →
    if query.inclusiveMin = some false then bound.lt value else bound.le value := by
  unfold admitsAbove
  cases query.min with
  | none => simp
  | some bound => rcases query.inclusiveMin with _ | _ | _ <;> simp

theorem admitsBelow_iff : query.admitsBelow value ↔ ∀ bound, query.max = some bound →
    if query.inclusiveMax = some true then value.le bound else value.lt bound := by
  unfold admitsBelow
  cases query.max with
  | none => simp
  | some bound => rcases query.inclusiveMax with _ | _ | _ <;> simp

theorem contains_iff : query.contains value ↔ query.Within value := by
  unfold contains
  rw [Bool.and_eq_true, admitsAbove_iff, admitsBelow_iff]
  exact ⟨fun ⟨above, below⟩ => ⟨above, below⟩, fun ⟨above, below⟩ => ⟨above, below⟩⟩

theorem validate_eq_ok_iff : query.validate = .ok () ↔
    ¬((query.min = none ∧ query.max = none) ∨ query.field = "") := by
  unfold validate
  split
  · next unbounded => simp [unbounded]
  · next bounded =>
    split
    · next unnamed => simp [unnamed]
    · next named => simp [bounded, named]

/-- A query gives an error exactly if it has no bound or no field, whatever is looked through. -/
theorem search_eq_error_iff (snapshot : Snapshot) :
    (∃ error, query.search snapshot = .error error) ↔
      (query.min = none ∧ query.max = none) ∨ query.field = "" := by
  rw [← not_iff_not, ← validate_eq_ok_iff]
  unfold search
  cases query.validate with
  | error error => simp [Except.map]
  | ok _ => simp [Except.map]

end RangeQuery

/-! ### The numbers of a document -/

/-- The numbers of a name are those of the indexed fields of that name. -/
theorem AnalyzedDocument.mem_numbersOf {analyzed : AnalyzedDocument} {name : String}
    {number : Binary64} : number ∈ analyzed.numbersOf name ↔
      ∃ field ∈ analyzed.document.fields, field.name = name ∧ field.options.indexed = true ∧
        field.value.number? = some number := by
  unfold numbersOf indexedNumbers
  simp only [List.mem_map, List.mem_filter, List.mem_filterMap, decide_eq_true_eq]
  constructor
  · rintro ⟨entry, ⟨⟨field, member, taken⟩, rfl⟩, rfl⟩
    split at taken
    · next indexed =>
      obtain ⟨value, isNumber, rfl⟩ := Option.map_eq_some_iff.mp taken
      exact ⟨field, member, rfl, indexed, isNumber⟩
    · cases taken
  · rintro ⟨field, member, rfl, indexed, isNumber⟩
    refine ⟨(field.name, number), ⟨⟨field, member, ?_⟩, rfl⟩, rfl⟩
    rw [if_pos indexed, isNumber, Option.map_some]

/-- An indexed field of the document has a number in the range. -/
def Document.HasNumberIn (document : Document) (query : RangeQuery) : Prop :=
  ∃ field ∈ document.fields, field.name = query.field ∧ field.options.indexed = true ∧
    ∃ number, field.value.number? = some number ∧ query.Within number

/-- The identity field has no number. -/
theorem Document.hasNumberIn_withIdentity {document : Document} {query : RangeQuery}
    {id : String} : (document.withIdentity id).HasNumberIn query ↔ document.HasNumberIn query := by
  unfold HasNumberIn withIdentity
  simp only [List.mem_append, List.mem_singleton]
  constructor
  · rintro ⟨field, member | rfl, sameName, indexed, number, isNumber, within⟩
    · exact ⟨field, member, sameName, indexed, number, isNumber, within⟩
    · cases isNumber
  · rintro ⟨field, member, rest⟩
    exact ⟨field, .inl member, rest⟩

theorem AnalyzedDocument.any_numbersOf_iff {analyzed : AnalyzedDocument} {query : RangeQuery} :
    (analyzed.numbersOf query.field).any query.contains ↔
      analyzed.document.HasNumberIn query := by
  unfold Document.HasNumberIn
  simp only [List.any_eq_true, mem_numbersOf, RangeQuery.contains_iff]
  constructor
  · rintro ⟨number, ⟨field, member, sameName, indexed, isNumber⟩, within⟩
    exact ⟨field, member, sameName, indexed, number, isNumber, within⟩
  · rintro ⟨field, member, sameName, indexed, number, isNumber, within⟩
    exact ⟨number, ⟨field, member, sameName, indexed, isNumber⟩, within⟩

/-! ### Searching -/

theorem Row.rangeMatch?_eq_some {row : Row} {query : RangeQuery} {entry : DocumentMatch} :
    row.rangeMatch? query = some entry ↔
      row.analyzed.document.HasNumberIn query ∧ entry = ⟨row.id, query.score⟩ := by
  unfold rangeMatch?
  rw [Option.ite_none_right_eq_some, AnalyzedDocument.any_numbersOf_iff, Option.some.injEq,
    eq_comm]

namespace Snapshot

variable {snapshot : Snapshot} {config : Config} {batches : List Batch}

/-- The documents of the maps have the numbers that they were analyzed with. -/
theorem Lists.hasNumberIn_iff {catalog : Catalog} {rows : List Row}
    (lists : snapshot.Lists config catalog rows) {query : RangeQuery} {id : String} :
    (∃ analyzed, catalog.Current config analyzed ∧ analyzed.id = id ∧
        analyzed.document.HasNumberIn query) ↔
      ∃ document, catalog.documents[id]? = some document ∧ document.HasNumberIn query := by
  have same : ∀ {analyzed document}, catalog.documents[analyzed.id]? = some document →
      catalog.Current config analyzed →
      (analyzed.document.HasNumberIn query ↔ document.HasNumberIn query) := by
    rintro analyzed document held ⟨other, otherHeld, done⟩
    obtain rfl := Option.some.inj (held.symm.trans otherHeld)
    rw [document_of_analyzeDocument done, Document.hasNumberIn_withIdentity]
  constructor
  · rintro ⟨analyzed, current, rfl, has⟩
    obtain ⟨document, held, -⟩ := id current
    exact ⟨document, held, (same held current).mp has⟩
  · rintro ⟨document, held, has⟩
    have inMap : id ∈ catalog.documents := by
      rw [Std.ExtTreeMap.mem_iff_isSome_getElem?, held]
      rfl
    obtain ⟨analyzed, ⟨current, rfl⟩, -⟩ := lists.existsUnique_current inMap
    exact ⟨analyzed, current, rfl, (same held current).mpr has⟩

/-- **A range query finds exactly the documents that have a number in the range.** It gives an error
if it has no bound or no field, and only then, whatever it looks through. Otherwise, whatever the
history of the snapshot, it finds each document once, in ascending order of external ids, that the
committed batches left and that has an indexed field of the given name with a number in the range.
Neither other values of that name nor earlier versions of the document make a difference. -/
theorem MadeOf.range_search_exact (made : snapshot.MadeOf config batches) (query : RangeQuery) :
    let catalog := Catalog.after config batches
    let incomplete := (query.min = none ∧ query.max = none) ∨ query.field = ""
    (∀ any : Snapshot, (∃ error, query.search any = .error error) ↔ incomplete) ∧
      snapshot.visibleIds = catalog.documents.keys ∧
      (¬incomplete → ∃ found, query.search snapshot = .ok found ∧
        DocumentMatch.Exactly found (query.boost.getD .one) fun id =>
          ∃ document, catalog.documents[id]? = some document ∧ document.HasNumberIn query) := by
  intro catalog incomplete
  refine ⟨fun any => RangeQuery.search_eq_error_iff any, made.represents.visibleIds,
    fun complete => ?_⟩
  obtain ⟨rows, lists⟩ := made.exists_rows
  unfold RangeQuery.search
  rw [RangeQuery.validate_eq_ok_iff.mpr complete, lists.rangeMatches]
  have exactly : DocumentMatch.Exactly _ query.score fun id => ∃ analyzed,
      catalog.Current config analyzed ∧ analyzed.id = id ∧ analyzed.document.HasNumberIn query :=
    lists.exactly fun _ _ => Row.rangeMatch?_eq_some
  exact ⟨_, rfl, exactly.ascending, fun entry =>
    (exactly.mem entry).trans (and_congr_right fun _ => lists.hasNumberIn_iff)⟩

/-- A document with prices, the first of which is not indexed. -/
def priced (unindexed : Int64) (prices : List Int64) : Document where
  fields := ⟨"price", .int unindexed, { indexed := false }⟩ ::
    prices.map fun price => ⟨"price", .int price, {}⟩

/-- A document has two prices, one of which is in the range from 10 to 20, another document has such
a price only where it is not indexed, and a third one had one before it was replaced. -/
def pricesReplaced : List Batch :=
  [(Batch.empty.put (priced 1 [30, 10]) "a").2, (Batch.empty.put (priced 15 [20]) "b").2,
    (Batch.empty.put (priced 1 [15]) "c").2, (Batch.empty.put (priced 1 [5]) "c").2]

/-- Only the first of the three is found. -/
theorem range_search_pricesReplaced :
    let snapshot := (Engine.standard.commitAll pricesReplaced).2.root
    let query : RangeQuery := { min := some (.ofInt 10), max := some (.ofInt 20), field := "price" }
    snapshot.MadeOf (.standard 1) pricesReplaced ∧
      snapshot.visibleIds = ["a", "b", "c"] ∧
      query.search snapshot = .ok [⟨"a", .one⟩] ∧
      (∃ error, { query with field := "" }.search snapshot = .error error) ∧
      DocumentMatch.Exactly [⟨"a", .one⟩] .one fun id => ∃ document,
        (Catalog.after (.standard 1) pricesReplaced).documents[id]? = some document ∧
          document.HasNumberIn query := by
  intro snapshot query
  have done : (Engine.standard.commitAll pricesReplaced).1 =
      [⟨1, 1, []⟩, ⟨2, 2, []⟩, ⟨3, 3, []⟩, ⟨4, 4, []⟩].map .ok := by decide +kernel
  have reached : (Engine.standard.commitAll pricesReplaced).2.Reached (.standard 1)
      pricesReplaced := (Engine.Reached.opened (.own Engine.openOwn_standard)).commitAll done
  have made : snapshot.MadeOf (.standard 1) pricesReplaced := reached.standing.made
  have searched : query.search snapshot = .ok [⟨"a", .one⟩] := by decide +kernel
  obtain ⟨-, visibleIds, finds⟩ := made.range_search_exact query
  obtain ⟨found, isFound, exactly⟩ := finds (by decide)
  obtain rfl := Except.ok.inj (searched.symm.trans isFound)
  have fails := ((made.range_search_exact { query with field := "" }).1 snapshot).mpr (.inr rfl)
  exact ⟨made, visibleIds.trans (by decide +kernel), searched, fails, exactly⟩

end Snapshot

end TextIndex
