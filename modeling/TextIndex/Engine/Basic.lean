import TextIndex.Analysis.WorkerPool
import TextIndex.Engine.Batch
import TextIndex.Engine.Config
import TextIndex.Engine.Statistics
import TextIndex.Index.Publisher

/-!
# Engines

An engine is an index with its configuration, a pool of workers that analyze documents, and a
publisher. A batch is committed as a whole: its documents are analyzed, made into one segment, and
introduced together with its removals and its metadata. If it fails, nothing of it becomes visible.
Commits come one after the other here, so that the publisher turns to each at once, or is late and
turns to it when the deadline of the configuration, if it has one, has passed.

* `Engine.commit`: commit a batch.
* `Engine.put`, `Engine.remove`, `Engine.setMetadata`, `Engine.removeMetadata`: commit one edit.
* `Engine.snapshot`: what can be read.
* `Engine.analyze`: analyze a document without indexing it.
* `Engine.close`: close the index.
-/

namespace TextIndex

open TextIndex.Text TextIndex.Time

/-- An index. -/
structure Engine where
  config : Config
  pool : WorkerPool
  /-- Whether the pool serves this engine alone. -/
  ownsPool : Bool
  root : Snapshot := .empty
  publisher : Publisher := .empty
  counters : BatchCounters := {}
  closed : Bool := false

/-- What a committed batch came to. -/
structure Receipt where
  /-- The version of the first snapshot with the batch. -/
  version : Nat
  /-- The number of its segment. -/
  segment : Nat
  /-- The documents that were left out because they could not be analyzed. -/
  failures : List DocumentFailure
deriving DecidableEq

namespace Answer

/-- The document, if it could be analyzed. -/
def analyzed? (answer : Answer) : Option AnalyzedDocument :=
  answer.outcome.toOption

/-- The failure, if the document could not be analyzed. -/
def failure? (answer : Answer) : Option DocumentFailure :=
  match answer.outcome with
  | .ok _ => none
  | .error error => some ⟨answer.id, error.message⟩

end Answer

/-- The bytes of the texts of a document's own fields. -/
def AnalyzedDocument.ownTextBytes (analyzed : AnalyzedDocument) : Nat :=
  Number.total ((analyzed.document.fields.filter (·.name != identityName)).map
    (·.value.plainTextBytes))

namespace BatchCounters

/-- Count a batch that is taken on. -/
def record (counters : BatchCounters) (batch : Batch) : BatchCounters :=
  { counters with
    batches := counters.batches + 1
    updates := counters.updates + batch.puts
    deletes := counters.deletes + batch.removals
    metadataSets := counters.metadataSets + batch.metadataSets
    metadataRemovals := counters.metadataRemovals + batch.metadataRemovals }

/-- Count documents that could not be analyzed. -/
def addFailures (counters : BatchCounters) (failures : List DocumentFailure) : BatchCounters :=
  { counters with failures := counters.failures + failures.length }

/-- Count the texts of documents that could be analyzed. -/
def addTexts (counters : BatchCounters) (documents : List AnalyzedDocument) : BatchCounters :=
  { counters with
    plainTextBytes := counters.plainTextBytes + Number.total (documents.map (·.ownTextBytes)) }

def addError (counters : BatchCounters) : BatchCounters :=
  { counters with errors := counters.errors + 1 }

end BatchCounters

namespace Engine

/-- Open an index whose documents are analyzed by a shared pool. -/
def openShared (config : Config) (pool : WorkerPool) : Except IndexError Engine :=
  match config.validate with
  | .error error => .error error
  | .ok () => if pool.closed then .error .closed else .ok { config, pool, ownsPool := false }

/-- Open an index with a pool of its own. -/
def openOwn (config : Config) : Except IndexError Engine :=
  match config.validate with
  | .error error => .error error
  | .ok () =>
    (WorkerPool.start config.workers.toNat config.capacity.toNat).map fun pool =>
      { config, pool, ownsPool := true }

/-- The first reason why nothing can be committed. -/
def checkOpen (engine : Engine) : Except IndexError Unit :=
  if engine.closed then .error .closed
  else match engine.publisher.failure with
    | some since => .error (.index (.unusable since))
    | none => .ok ()

/-- The work that the documents of a batch make. -/
def works (engine : Engine) (batch : Batch) : List Work :=
  batch.putDocuments.map fun entry =>
    ⟨entry.2.withIdentity entry.1, engine.config.analyzers, engine.config.withPlaces⟩

/-- The external ids of a batch less those of documents that could not be analyzed. -/
def remaining (touched : List String) (failures : List DocumentFailure) : List String :=
  touched.filter fun id => !failures.any (·.id == id)

/-- What a batch introduces into an index, whose documents make the given segment. -/
def introductionOf (engine : Engine) (batch : Batch) (answers : List Answer) (segment : Segment) :
    Introduction :=
  let touched := remaining batch.touched (answers.filterMap Answer.failure?)
  { segment
    touched := touched
    obsoletes := engine.root.obsoletesOf touched
    metadata := batch.metadata }

/-- The deadline that passes for a submission before a late publisher turns to it. -/
def passedDeadline? (engine : Engine) (late : Bool) : Option Duration :=
  if late then engine.config.deadline else none

/-- Introduce something and wait for it. -/
def publish (engine : Engine) (introduction : Introduction) (late : Bool := false) :
    Except IndexError (Nat × Nat) × Engine :=
  match engine.publisher.submit introduction with
  | (.error error, publisher) => (.error error, { engine with publisher })
  | (.ok id, submitted) =>
    let (told, waiting) := match engine.passedDeadline? late with
      | some deadline => submitted.expire id deadline
      | none => (none, submitted)
    let (root, publisher) := waiting.settle engine.root
    ((told.getD (publisher.verdict id)).map fun version => (version, id),
      { engine with root, publisher })

/-- Commit a batch whose documents have been analyzed. -/
def conclude (engine : Engine) (batch : Batch) (answers : List Answer) (late : Bool := false) :
    Except IndexError Receipt × Engine :=
  let failures := answers.filterMap Answer.failure?
  let documents := answers.filterMap Answer.analyzed?
  let counted := { engine with counters := engine.counters.addFailures failures }
  if failures ≠ [] ∧ engine.config.policy = .reject then (.error (.rejected failures), counted)
  else
    let counted := { counted with counters := counted.counters.addTexts documents }
    match Segment.build documents with
    | .error error => (.error error, counted)
    | .ok segment =>
      let (published, engine) :=
        counted.publish (counted.introductionOf batch answers segment) late
      (published.map fun (version, segment) => ⟨version, segment, failures⟩, engine)

/-- Take a batch through all stages. -/
def apply (engine : Engine) (batch : Batch) (late : Bool := false) :
    Except IndexError Receipt × Engine :=
  match engine.checkOpen with
  | .error error => (.error error, engine)
  | .ok () =>
    match batch.validate with
    | .error error => (.error error, engine)
    | .ok () =>
      let engine := { engine with counters := engine.counters.record batch }
      match engine.pool.analyzeAll (engine.works batch) with
      | .error error => (.error error, engine)
      | .ok answers => engine.conclude batch answers late

/-- Commit a batch. A batch that gives an error is counted. -/
def commit (engine : Engine) (batch : Batch) (late : Bool := false) :
    Except IndexError Receipt × Engine :=
  match engine.apply batch late with
  | (.ok receipt, engine) => (.ok receipt, engine)
  | (.error error, engine) =>
    (.error error, { engine with counters := engine.counters.addError })

/-- Commit the putting of a document, under a fresh id if it has none. -/
def put (engine : Engine) (document : Document) (fresh : String) (late : Bool := false) :
    Except IndexError Receipt × Engine :=
  engine.commit (Batch.empty.put document fresh).2 late

/-- Commit the removal of the document with an external id. -/
def remove (engine : Engine) (id : String) (late : Bool := false) :
    Except IndexError Receipt × Engine :=
  engine.commit (Batch.empty.remove id) late

def setMetadata (engine : Engine) (key value : Bytes) (late : Bool := false) :
    Except IndexError Receipt × Engine :=
  engine.commit (Batch.empty.setMetadata key value) late

def removeMetadata (engine : Engine) (key : Bytes) (late : Bool := false) :
    Except IndexError Receipt × Engine :=
  engine.commit (Batch.empty.removeMetadata key) late

/-- Commit batches one after the other, going on after errors. No deadline passes. -/
def commitAll (engine : Engine) : List Batch → List (Except IndexError Receipt) × Engine
  | [] => ([], engine)
  | batch :: later =>
    let (result, engine) := engine.commit batch
    let (results, engine) := engine.commitAll later
    (result :: results, engine)

/-- What can be read, unless the index is closed. -/
def snapshot (engine : Engine) : Except IndexError Snapshot :=
  if engine.closed then .error .closed else .ok engine.root

/-- What is wrong with a document that is to be analyzed without being indexed. -/
def analysisFault? (document : Document) : Option ArgumentFault :=
  match document.id with
  | none => some .documentWithoutId
  | some id =>
    if document.hasField identityName then some (.reservedField id identityName) else none

def analyze (engine : Engine) (document : Document) : Except AnalyzerFault AnalyzedDocument :=
  match analysisFault? document with
  | some fault => .error (.failed (.argument fault))
  | none =>
    analyzeDocument engine.config.analyzers engine.config.withPlaces
      (document.withIdentity (document.id.getD ""))

/-- Close the index. What was submitted is still introduced. Closing again does nothing. -/
def close (engine : Engine) : Except IndexError Unit × Engine :=
  if engine.closed then (.ok (), engine)
  else
    let (root, publisher) := engine.publisher.beginClose.settle engine.root
    (publisher.closeVerdict (!engine.publisher.closing),
      { engine with
        root
        publisher
        pool := if engine.ownsPool then engine.pool.close else engine.pool
        closed := true })

/-- The engine after the pool that it analyzes with is closed. -/
def withPoolClosed (engine : Engine) : Engine :=
  { engine with pool := engine.pool.close }

def statistics (engine : Engine) (time : TimeSpent) : Statistics :=
  .of engine.counters engine.publisher.counters time

def diagnostic (engine : Engine) : String :=
  "Engine \x7b version: " ++ toString engine.root.version ++ ", queue: " ++
    engine.pool.diagnostic ++ ", introducer: " ++ engine.publisher.diagnostic ++ ", closed: " ++
    Value.boolText engine.closed ++ " \x7d"

end Engine

end TextIndex
