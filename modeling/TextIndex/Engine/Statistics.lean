import TextIndex.Index.Publisher
import TextIndex.Json.Record

/-!
# Statistics

An index counts what is asked of it and what becomes of it. Batches and introductions are counted
apart, and both together, with the time that they took, make the statistics that are reported.

* `Statistics.of`: the statistics of an index.
* `Statistics.toJson`, `Statistics.ofJson?`, `Statistics.toMap`: how statistics are written.
-/

namespace TextIndex

/-- What is counted of batches. -/
structure BatchCounters where
  batches : Nat := 0
  updates : Nat := 0
  deletes : Nat := 0
  metadataSets : Nat := 0
  metadataRemovals : Nat := 0
  /-- The documents that could not be analyzed. -/
  failures : Nat := 0
  /-- The bytes of the texts of the documents that could. -/
  plainTextBytes : Nat := 0
  /-- The batches that gave an error. -/
  errors : Nat := 0
deriving DecidableEq, Repr, Inhabited

/-- The nanoseconds that an index has spent. -/
structure TimeSpent where
  analysis : Nat := 0
  introduction : Nat := 0
deriving DecidableEq, Repr, Inhabited

/-- All counters of an index, as words. -/
structure Statistics where
  batches : UInt64
  updates : UInt64
  deletes : UInt64
  metadataSets : UInt64
  metadataRemovals : UInt64
  analysisTime : UInt64
  failures : UInt64
  plainTextBytes : UInt64
  errors : UInt64
  applied : UInt64
  rejected : UInt64
  abandoned : UInt64
  introductionTime : UInt64
  recomputed : UInt64
  obsoleted : UInt64
  version : UInt64
deriving DecidableEq, Repr

namespace Statistics

/-- The statistics of an index. -/
def of (batch : BatchCounters) (publish : PublishCounters) (time : TimeSpent) : Statistics where
  batches := .ofNat batch.batches
  updates := .ofNat batch.updates
  deletes := .ofNat batch.deletes
  metadataSets := .ofNat batch.metadataSets
  metadataRemovals := .ofNat batch.metadataRemovals
  analysisTime := .ofNat time.analysis
  failures := .ofNat batch.failures
  plainTextBytes := .ofNat batch.plainTextBytes
  errors := .ofNat batch.errors
  applied := .ofNat publish.applied
  rejected := .ofNat publish.rejected
  abandoned := .ofNat publish.abandoned
  introductionTime := .ofNat time.introduction
  recomputed := .ofNat publish.recomputed
  obsoleted := .ofNat publish.obsoleted
  version := .ofNat publish.version

/-- The names of the counters, in the order in which they are written. -/
def names : List String :=
  ["batches", "updates", "deletes", "internal_sets", "internal_deletes", "analysis_time_ns",
    "analysis_failures", "plain_text_bytes_indexed", "batch_errors", "introductions_applied",
    "introductions_rejected", "introductions_abandoned", "introduction_time_ns",
    "obsoletes_recomputed", "docs_obsoleted", "root_version"]

/-- The counters in the order in which they are written. -/
def values (statistics : Statistics) : List UInt64 :=
  [statistics.batches, statistics.updates, statistics.deletes, statistics.metadataSets,
    statistics.metadataRemovals, statistics.analysisTime, statistics.failures,
    statistics.plainTextBytes, statistics.errors, statistics.applied, statistics.rejected,
    statistics.abandoned, statistics.introductionTime, statistics.recomputed,
    statistics.obsoleted, statistics.version]

/-- Statistics from all counters in order. -/
def ofValues? : List UInt64 → Option Statistics
  | [batches, updates, deletes, metadataSets, metadataRemovals, analysisTime, failures,
      plainTextBytes, errors, applied, rejected, abandoned, introductionTime, recomputed,
      obsoleted, version] =>
    some ⟨batches, updates, deletes, metadataSets, metadataRemovals, analysisTime, failures,
      plainTextBytes, errors, applied, rejected, abandoned, introductionTime, recomputed,
      obsoleted, version⟩
  | _ => none

def toJson (statistics : Statistics) : Json :=
  .structured (List.zipWith (fun name value => (name, .integer value.toNat)) names
    statistics.values)

/-- The statistics that a JSON text stands for. -/
def ofJson? (json : Json) : Option Statistics := do
  let record ← json.record? names
  let values ← names.mapM fun name => record.required name Json.word?
  ofValues? values

/-- A member of a JSON object that is a word, by its name. -/
def wordMember? (member : List Json.TextUnit × Json) : Option (String × UInt64) := do
  let name ← Json.TextUnit.decode? member.1
  let word ← member.2.word?
  some (String.ofList name, word)

/-- The counters by name, as they stand in the JSON form. What is no word there is left out. -/
def toMap (statistics : Statistics) : Std.ExtTreeMap String UInt64 :=
  match statistics.toJson with
  | .object members => .ofList (members.filterMap wordMember?)
  | _ => ∅

end Statistics

end TextIndex
