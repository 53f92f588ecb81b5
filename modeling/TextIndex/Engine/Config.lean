import TextIndex.Analysis.Analyzer
import TextIndex.Json.Parser
import TextIndex.Json.Printer
import TextIndex.Json.Record
import TextIndex.Time.Duration

/-!
# Configuration

How an index is set up: how many workers analyze documents and how many documents may wait for one,
how long a commit may take, what happens to documents that cannot be analyzed, and how texts are
analyzed. All but the analyzers can be stored as JSON. What is not given depends on the number of
processors.

* `Config.validate`: what a configuration must not hold.
* `ConfigBuilder.build`: a configuration from the parts that are given.
* `Config.ofText`, `Config.toJson`: configurations in JSON.
-/

namespace TextIndex

open TextIndex.Time

/-- What a batch does when some of its documents cannot be analyzed. -/
inductive FailurePolicy
  /-- The whole batch fails. -/
  | reject
  /-- The other edits are committed. -/
  | skip
deriving DecidableEq, Repr, Inhabited

namespace FailurePolicy

def name : FailurePolicy → String
  | reject => "reject"
  | skip => "skip_document"

def toJson (policy : FailurePolicy) : Json :=
  .string policy.name

/-- The policy that a JSON text stands for. -/
def ofJson? (json : Json) : Option FailurePolicy :=
  match json.choice? with
  | some (name, content) =>
    if Json.isBare content then [reject, skip].find? (·.name == name) else none
  | none => none

end FailurePolicy

/-- The documents that may wait for each worker, where nothing else is said. -/
def waitingPerWorker : UInt64 := 16

/-- The workers where nothing else is said: one for each processor. -/
def defaultWorkers (processors : UInt64) : UInt64 :=
  max processors 1

/-- How an index is set up. -/
structure Config where
  workers : UInt64
  /-- How many documents may wait for a worker. -/
  capacity : UInt64
  /-- How many milliseconds a commit may wait for its introduction. -/
  timeout : Option UInt64
  policy : FailurePolicy
  /-- Whether the places of terms are kept. -/
  withPlaces : Bool
  /-- The analyzer of fields without one of their own, if it is not the standard one. -/
  analyzer : Option Analyzer
  fieldAnalyzers : Std.ExtTreeMap String Analyzer

namespace Config

/-- The first number that is zero and must not be. -/
def fault? (config : Config) : Option ConfigFault :=
  if config.workers = 0 then some .noWorkers
  else if config.capacity = 0 then some .noCapacity
  else if config.timeout = some 0 then some .zeroTimeout
  else none

/-- Check a configuration before an index is set up with it. -/
def validate (config : Config) : Except IndexError Unit :=
  match config.fault? with
  | some fault => .error (.config fault)
  | none => .ok ()

/-- How long a commit may wait for its introduction. -/
def deadline (config : Config) : Option Duration :=
  config.timeout.map Duration.ofMilliseconds

def analyzers (config : Config) : FieldAnalyzers :=
  ⟨config.analyzer.getD (.standard none), config.fieldAnalyzers⟩

/-- The configuration where nothing else is said. -/
def standard (processors : UInt64) : Config where
  workers := defaultWorkers processors
  capacity := defaultWorkers processors * waitingPerWorker
  timeout := none
  policy := .reject
  withPlaces := true
  analyzer := none
  fieldAnalyzers := ∅

end Config

/-- The parts of a configuration that have been given. -/
structure ConfigBuilder where
  workers : Option UInt64 := none
  capacity : Option UInt64 := none
  timeout : Option UInt64 := none
  policy : FailurePolicy := .reject
  withPlaces : Option Bool := none
  analyzer : Option Analyzer := none
  fieldAnalyzers : Std.ExtTreeMap String Analyzer := ∅

namespace ConfigBuilder

/-- Give the time that a commit may wait, cut to whole milliseconds, but at least one. Only the low
64 bits of the number of milliseconds are kept. -/
def withTimeout (builder : ConfigBuilder) (timeout : Duration) : ConfigBuilder :=
  { builder with timeout := some (UInt64.ofNat (max timeout.milliseconds 1)) }

/-- Give a field an analyzer of its own. -/
def withFieldAnalyzer (builder : ConfigBuilder) (field : String) (analyzer : Analyzer) :
    ConfigBuilder :=
  { builder with fieldAnalyzers := builder.fieldAnalyzers.insert field analyzer }

/-- The configuration of the given parts. -/
def build (builder : ConfigBuilder) (processors : UInt64) : Config :=
  let workers := builder.workers.getD (defaultWorkers processors)
  { workers := workers
    capacity := builder.capacity.getD (max workers 1 * waitingPerWorker)
    timeout := builder.timeout
    policy := builder.policy
    withPlaces := builder.withPlaces.getD true
    analyzer := builder.analyzer
    fieldAnalyzers := builder.fieldAnalyzers }

end ConfigBuilder

/-- The part of a configuration that is stored. -/
structure StoredConfig where
  workers : Option UInt64
  capacity : Option UInt64
  timeout : Option UInt64
  policy : FailurePolicy
  withPlaces : Bool
deriving DecidableEq

namespace StoredConfig

/-- The stored part that a JSON text stands for. -/
def ofJson? (json : Json) : Option StoredConfig := do
  let record ← json.record?
    ["analysis_workers", "analysis_queue_capacity", "introduction_timeout_ms",
      "analysis_failure_policy", "store_term_locations"]
  let workers ←
    record.orDefault "analysis_workers" (fun json => json.word?.map some) none
  let capacity ←
    record.orDefault "analysis_queue_capacity" (fun json => json.word?.map some) none
  let timeout ←
    record.orDefault "introduction_timeout_ms" (Json.nullable? Json.word?) none
  let policy ← record.orDefault "analysis_failure_policy" FailurePolicy.ofJson? .reject
  let withPlaces ← record.orDefault "store_term_locations" Json.bool? true
  some ⟨workers, capacity, timeout, policy, withPlaces⟩

/-- The configuration with the stored part and the standard analyzer. -/
def toConfig (stored : StoredConfig) (processors : UInt64) : Config where
  workers := stored.workers.getD (defaultWorkers processors)
  capacity := stored.capacity.getD (defaultWorkers processors * waitingPerWorker)
  timeout := stored.timeout
  policy := stored.policy
  withPlaces := stored.withPlaces
  analyzer := none
  fieldAnalyzers := ∅

end StoredConfig

namespace Config

/-- The stored part of a configuration as it is written. -/
def toJson (config : Config) : Json :=
  .structured [
    ("analysis_workers", .integer config.workers.toNat),
    ("analysis_queue_capacity", .integer config.capacity.toNat),
    ("introduction_timeout_ms", .nullable (fun word => .integer word.toNat) config.timeout),
    ("analysis_failure_policy", config.policy.toJson),
    ("store_term_locations", .bool config.withPlaces)]

/-- The configuration that a JSON text stands for, if it is a valid one. -/
def ofText (processors : UInt64) (text : String) : Except IndexError Config :=
  match (Json.parse? text).bind StoredConfig.ofJson? with
  | none => .error .json
  | some stored => (stored.toConfig processors).validate.map fun _ => stored.toConfig processors

end Config

end TextIndex
