import TextIndex.Proofs.Engine.Rows

/-!
# What a term query finds

A term query finds the documents that have the term in some slot of the field, plain or composite,
and it finds each of them once. Versions of a document that were replaced or removed are not found,
whatever segments they are in. What is told of an occurrence, the number of occurrences and the
length of the field, is put together from all slots of that name.

* `TermMatch.Reports`: what is told of the occurrences of a term in a document.
* `Snapshot.MadeOf.term_search_exact`: what a term query finds.
-/

namespace TextIndex

/-- What is told of the occurrences of a term in a field of a document. The counts are words. -/
structure TermMatch.Reports (found : TermMatch) (snapshot : Snapshot) (analyzed : AnalyzedDocument)
    (field term : String) : Prop where
  id : found.id = analyzed.id
  /-- The one place where the document is visible. -/
  located : snapshot.locations found.id = [(found.segment, found.doc)]
  frequency : found.frequency = .ofNat (analyzed.frequencyOf field term)
  fieldLength : found.fieldLength = .ofNat (analyzed.lengthOf field)

namespace TermMatch.Reports

variable {found other : TermMatch} {snapshot : Snapshot} {analyzed : AnalyzedDocument}
  {field term : String}

/-- There is one report only. -/
theorem unique (reports : found.Reports snapshot analyzed field term)
    (otherReports : other.Reports snapshot analyzed field term) : found = other := by
  have sameId : found.id = other.id := reports.id.trans otherReports.id.symm
  have places := reports.located
  rw [sameId, otherReports.located, List.cons_eq_cons, Prod.mk.injEq] at places
  rw [TermMatch.mk.injEq]
  exact ⟨sameId, places.1.1.symm, places.1.2.symm,
    reports.frequency.trans otherReports.frequency.symm,
    reports.fieldLength.trans otherReports.fieldLength.symm⟩

/-- Counts that fit into a word are told as they are. -/
theorem toNat_eq (reports : found.Reports snapshot analyzed field term)
    (measured : ∀ slot ∈ analyzed.slots, slot.summary.Measured)
    (fits : analyzed.lengthOf field < 2 ^ 32) :
    found.frequency.toNat = analyzed.frequencyOf field term ∧
      found.fieldLength.toNat = analyzed.lengthOf field := by
  rw [reports.frequency, reports.fieldLength]
  have le : analyzed.frequencyOf field term ≤ analyzed.lengthOf field :=
    AnalyzedDocument.frequencyOf_le measured
  exact ⟨UInt32.toNat_ofNat_of_lt' (Nat.lt_of_le_of_lt le fits), UInt32.toNat_ofNat_of_lt' fits⟩

end TermMatch.Reports

namespace Row

variable {row : Row} {field term : String}

/-- A row has an occurrence of a term if some slot of the field has it. -/
theorem isSome_termMatch? : (row.termMatch? field term).isSome ↔ row.analyzed.Holds field term := by
  unfold termMatch?
  rw [Option.isSome_map, AnalyzedDocument.isSome_posting?]

/-- What a row tells of the occurrences of a term. -/
theorem reports_of_termMatch? {snapshot : Snapshot} {found : TermMatch}
    (measured : ∀ slot ∈ row.analyzed.slots, slot.summary.Measured)
    (located : snapshot.locations row.id = [(row.segment, row.doc)])
    (matched : row.termMatch? field term = some found) :
    found.Reports snapshot row.analyzed field term := by
  obtain ⟨posting, posted, rfl⟩ := Option.map_eq_some_iff.mp matched
  obtain ⟨frequency, fieldLength⟩ := AnalyzedDocument.posting?_eq_some measured posted
  exact ⟨rfl, located, frequency, fieldLength⟩

end Row

theorem Catalog.Current.measured {catalog : Catalog} {config : Config}
    {analyzed : AnalyzedDocument} (current : catalog.Current config analyzed) :
    ∀ slot ∈ analyzed.slots, slot.summary.Measured := by
  obtain ⟨_, _, done⟩ := current
  exact measured_of_analyzeDocument done

namespace Snapshot

variable {snapshot : Snapshot} {config : Config} {batches : List Batch}

namespace Lists

variable {catalog : Catalog} {rows : List Row} (lists : snapshot.Lists config catalog rows)

include lists

theorem nodup_ids_termMatches (field term : String) :
    ((snapshot.termMatches field term).map (·.id)).Nodup := by
  rw [lists.termMatches]
  refine lists.distinct.sublist (map_filterMap_sublist fun row _ found matched => ?_)
  obtain ⟨posting, -, rfl⟩ := Option.map_eq_some_iff.mp matched
  rfl

/-- There is one report of each document of the maps that has the term, and no other. -/
theorem mem_termMatches {field term : String} {found : TermMatch} :
    found ∈ snapshot.termMatches field term ↔ ∃ analyzed, catalog.Current config analyzed ∧
      analyzed.Holds field term ∧ found.Reports snapshot analyzed field term := by
  have reported : ∀ row ∈ rows, ∀ told, row.termMatch? field term = some told →
      told.Reports snapshot row.analyzed field term := fun row member _ matched =>
    Row.reports_of_termMatch? (lists.current row member).measured (lists.located row member) matched
  rw [lists.termMatches, List.mem_filterMap]
  constructor
  · rintro ⟨row, member, matched⟩
    exact ⟨row.analyzed, lists.current row member,
      Row.isSome_termMatch?.mp (matched ▸ rfl), reported row member found matched⟩
  · rintro ⟨analyzed, current, holds, reports⟩
    obtain ⟨row, member, rfl⟩ := lists.current_iff.mp current
    obtain ⟨told, matched⟩ := Option.isSome_iff_exists.mp (Row.isSome_termMatch?.mpr holds)
    refine ⟨row, member, ?_⟩
    rw [reports.unique (reported row member told matched), matched]

/-- The counts of a report are those of the document, unless the field is too long for a word. -/
theorem counts_of_mem_termMatches {field term : String} {found : TermMatch}
    (member : found ∈ snapshot.termMatches field term) {analyzed : AnalyzedDocument}
    (current : catalog.Current config analyzed) (sameId : analyzed.id = found.id)
    (fits : analyzed.lengthOf field < 2 ^ 32) :
    found.frequency.toNat = analyzed.frequencyOf field term ∧
      found.fieldLength.toNat = analyzed.lengthOf field := by
  obtain ⟨other, otherCurrent, -, reports⟩ := lists.mem_termMatches.mp member
  obtain rfl := current.eq_of_id otherCurrent (sameId.trans reports.id)
  exact reports.toNat_eq current.measured fits

/-- The documents that a term query with a field finds. -/
theorem search_term {query : TermQuery} (named : query.field ≠ "") :
    ∃ found, query.search snapshot = .ok found ∧ DocumentMatch.Exactly found query.boost fun id =>
      ∃ analyzed, catalog.Current config analyzed ∧ analyzed.id = id ∧
        analyzed.Holds query.field query.term := by
  unfold TermQuery.search TermQuery.validate
  rw [if_neg named, lists.termMatches, List.map_filterMap]
  refine ⟨_, rfl, lists.exactly fun row entry => ?_⟩
  rw [← Row.isSome_termMatch?]
  unfold Row.termMatch?
  cases row.analyzed.posting? query.field query.term row.doc with
  | none => simp
  | some posting => simp [eq_comm]

end Lists

/-- **A term query finds exactly the documents that have the term.** A snapshot shows what the
committed batches left, whatever their history. A query for a term in a field, which has to be
named, finds each document once, in ascending order of external ids, that has the term in some slot
of the field. Each of them has one report, with its one place, and with the sums over all slots of
the field, as long as these fit into a word. -/
theorem MadeOf.term_search_exact (made : snapshot.MadeOf config batches) (query : TermQuery)
    (named : query.field ≠ "") :
    let catalog := Catalog.after config batches
    let reports := snapshot.termMatches query.field query.term
    snapshot.visibleIds = catalog.documents.keys ∧
      (∀ id ∈ snapshot.visibleIds,
        ∃! analyzed, catalog.Current config analyzed ∧ analyzed.id = id) ∧
      (∃ found, query.search snapshot = .ok found ∧
        DocumentMatch.Exactly found query.boost fun id =>
          ∃ analyzed, catalog.Current config analyzed ∧ analyzed.id = id ∧
            analyzed.Holds query.field query.term) ∧
      (reports.map (·.id)).Nodup ∧
      (∀ found, found ∈ reports ↔ ∃ analyzed, catalog.Current config analyzed ∧
        analyzed.Holds query.field query.term ∧
        found.Reports snapshot analyzed query.field query.term) ∧
      ∀ found ∈ reports, ∀ analyzed, catalog.Current config analyzed → analyzed.id = found.id →
        analyzed.lengthOf query.field < 2 ^ 32 →
        found.frequency.toNat = analyzed.frequencyOf query.field query.term ∧
          found.fieldLength.toNat = analyzed.lengthOf query.field := by
  obtain ⟨rows, lists⟩ := made.exists_rows
  have visibleIds := made.represents.visibleIds
  refine ⟨visibleIds, fun id member => ?_, lists.search_term named,
    lists.nodup_ids_termMatches _ _, fun found => lists.mem_termMatches,
    fun found member analyzed => lists.counts_of_mem_termMatches member⟩
  rw [visibleIds, Std.ExtTreeMap.mem_keys] at member
  exact lists.existsUnique_current member

/-- A document with tags. -/
def tagged (tags : List String) : Document where
  fields := tags.map fun tag => ⟨"tag", .keyword tag, {}⟩

/-- Two documents have the tag "rust", each twice, and then one of them is replaced. -/
def tagsReplaced : List Batch :=
  [(Batch.empty.put (tagged ["rust", "go", "rust"]) "a").2,
    (Batch.empty.put (tagged ["rust", "go", "rust"]) "b").2,
    (Batch.empty.put (tagged ["go"]) "b").2]

/-- The document that was replaced is not found any more. -/
theorem term_search_tagsReplaced :
    let snapshot := (Engine.standard.commitAll tagsReplaced).2.root
    let query : TermQuery := { field := "tag", term := "rust" }
    snapshot.MadeOf (.standard 1) tagsReplaced ∧ query.field ≠ "" ∧
      snapshot.visibleIds = ["a", "b"] ∧
      snapshot.termMatches query.field query.term = [⟨"a", 1, 0, 2, 3⟩] ∧
      query.search snapshot = .ok [⟨"a", .one⟩] ∧
      DocumentMatch.Exactly [⟨"a", .one⟩] .one fun id =>
        ∃ analyzed, (Catalog.after (.standard 1) tagsReplaced).Current (.standard 1) analyzed ∧
          analyzed.id = id ∧ analyzed.Holds query.field query.term := by
  intro snapshot query
  have done : (Engine.standard.commitAll tagsReplaced).1 =
      [⟨1, 1, []⟩, ⟨2, 2, []⟩, ⟨3, 3, []⟩].map .ok := by decide +kernel
  have reached : (Engine.standard.commitAll tagsReplaced).2.Reached (.standard 1) tagsReplaced :=
    (Engine.Reached.opened (.own Engine.openOwn_standard)).commitAll done
  have made : snapshot.MadeOf (.standard 1) tagsReplaced := reached.standing.made
  have named : query.field ≠ "" := by decide
  have searched : query.search snapshot = .ok [⟨"a", .one⟩] := by decide +kernel
  obtain ⟨visibleIds, -, ⟨found, isFound, exactly⟩, -⟩ := made.term_search_exact query named
  obtain rfl := Except.ok.inj (searched.symm.trans isFound)
  exact ⟨made, named, visibleIds.trans (by decide +kernel), by decide +kernel, searched, exactly⟩

end Snapshot

end TextIndex
