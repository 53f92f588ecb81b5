import TextIndex.Number.FloatText
import TextIndex.Text.Utf8
import TextIndex.Time.Duration

/-!
# Errors

Every operation that can fail gives an `IndexError`: a kind, and with most kinds a cause of its own
type. A cause that an analyzer states in words of its own is kept as these words.

* `IndexError.message`: an error in words.
* `IndexError.isShutdown`: whether an error only tells that the index is closed.
* `DocumentFailure`: one document of a batch that could not be analyzed.
-/

namespace TextIndex

open TextIndex.Text TextIndex.Time

/-- A document of a batch that could not be analyzed, and why. -/
structure DocumentFailure where
  id : String
  reason : String
deriving DecidableEq, Repr

def DocumentFailure.message (failure : DocumentFailure) : String :=
  failure.id ++ ": " ++ failure.reason

/-- What an operation cannot be asked for. -/
inductive ArgumentFault
  | documentWithoutId
  | emptyId
  | reservedField (id field : String)
  | collidingComposite (id field : String)
  | emptyMetadataKey
  | rangeWithoutBound
  | rangeWithoutField
  | termWithoutField
  /-- More documents at once than a segment can hold. -/
  | tooManyDocuments (count : Nat)
  | stated (words : String)
deriving DecidableEq

def ArgumentFault.message : ArgumentFault → String
  | documentWithoutId => "document has no id"
  | emptyId => "document id must not be empty"
  | reservedField id field =>
    "document '" ++ id ++ "' uses reserved field name '" ++ field ++ "'"
  | collidingComposite id field =>
    "document '" ++ id ++ "' has composite field '" ++ field ++
      "' that collides with another field"
  | emptyMetadataKey => "internal key must not be empty"
  | rangeWithoutBound => "numeric range query must specify min or max"
  | rangeWithoutField => "numeric range query must specify a field"
  | termWithoutField => "term query must specify a field"
  | tooManyDocuments count => "segment cannot hold " ++ toString count ++ " documents"
  | stated words => words

/-- What an index or a worker pool cannot be set up with. -/
inductive ConfigFault
  | noWorkers
  | noCapacity
  | zeroTimeout
  | poolWithoutWorkers
  | poolWithoutCapacity
  | stated (words : String)
deriving DecidableEq

def ConfigFault.message : ConfigFault → String
  | noWorkers => "analysis_workers must be at least 1"
  | noCapacity => "analysis_queue_capacity must be at least 1"
  | zeroTimeout => "introduction_timeout_ms must be positive when set"
  | poolWithoutWorkers => "analysis queue needs at least one worker"
  | poolWithoutCapacity => "analysis queue capacity must be positive"
  | stated words => words

/-- Why a segment cannot be introduced. -/
inductive IntroductionFault
  /-- The last version was published. -/
  | versionsUsedUp
  /-- The segment came behind one with a higher or the same number. -/
  | outOfOrder (segment last : Nat)
deriving DecidableEq

def IntroductionFault.message : IntroductionFault → String
  | versionsUsedUp => "snapshot version counter overflow"
  | outOfOrder segment last =>
    "segment " ++ toString segment ++ " introduced after segment " ++ toString last

/-- What is wrong with the index itself. -/
inductive IndexFault
  | introduction (fault : IntroductionFault)
  /-- Since an introduction failed, nothing can be introduced any more. -/
  | unusable (since : IntroductionFault)
  /-- The last segment number was given out. -/
  | numbersUsedUp
  | stated (words : String)
deriving DecidableEq

namespace IndexFault

/-- What stands before a fault of the index. -/
def kindText : String := "Index error: "

def message : IndexFault → String
  | introduction fault => fault.message
  | unusable since => "index is unusable: " ++ kindText ++ since.message
  | numbersUsedUp => "segment id counter overflow"
  | stated words => words

end IndexFault

/-- What did not happen in time. -/
inductive TimeoutFault
  | notIntroduced (segment : Nat) (deadline : Duration)
  | stated (words : String)
deriving DecidableEq

def TimeoutFault.message : TimeoutFault → String
  | notIntroduced segment deadline =>
    "segment " ++ toString segment ++ " was not introduced within " ++ deadline.text
  | stated words => words

/-- What went wrong inside. -/
inductive InternalFault
  | publisherCrashed
  | stated (words : String)
deriving DecidableEq

def InternalFault.message : InternalFault → String
  | publisherCrashed => "introducer thread panicked"
  | stated words => words

mutual

/-- Why a document cannot be analyzed. -/
inductive AnalysisFault
  | nonFinite (value : Binary64)
  | malformed (fault : Utf8.Fault)
  | nullValue
  /-- The analyzer crashed, with some last words or without. -/
  | crashed (words : Option String)
  | inField (field : String) (cause : IndexError)
  | stated (words : String)
deriving DecidableEq

/-- Why an operation failed. -/
inductive IndexError
  | io (words : String)
  | json
  | analysis (fault : AnalysisFault)
  | argument (fault : ArgumentFault)
  | config (fault : ConfigFault)
  | index (fault : IndexFault)
  | closed
  | timeout (fault : TimeoutFault)
  | rejected (failures : List DocumentFailure)
  | internal (fault : InternalFault)
  | other (words : String)
deriving DecidableEq

end

mutual

/-- The fault in words. Of a cause that is itself a fault of the analysis, the kind is not repeated
inside a field. -/
def AnalysisFault.message : AnalysisFault → String
  | .nonFinite value => "non-finite numeric value " ++ value.specialText
  | .malformed fault => "binary value is not valid UTF-8: " ++ fault.message
  | .nullValue => "null value cannot be indexed"
  | .crashed words => "analyzer panicked: " ++ words.getD "unknown panic"
  | .inField field (.analysis fault) => "field '" ++ field ++ "': " ++ fault.message
  | .inField field cause => "field '" ++ field ++ "': " ++ cause.message
  | .stated words => words

def IndexError.message : IndexError → String
  | .io words => "IO error: " ++ words
  | .json => "JSON error"
  | .analysis fault => "Analysis error: " ++ fault.message
  | .argument fault => "Invalid argument: " ++ fault.message
  | .config fault => "Invalid configuration: " ++ fault.message
  | .index fault => IndexFault.kindText ++ fault.message
  | .closed => "Index is closed"
  | .timeout fault => "Timed out: " ++ fault.message
  | .rejected failures =>
    "Batch rejected: " ++ toString failures.length ++ " document(s) failed analysis"
  | .internal fault => "Internal error: " ++ fault.message
  | .other words => words

end

/-- Whether the error only tells that the index is closed. -/
def IndexError.isShutdown : IndexError → Bool
  | closed => true
  | _ => false

end TextIndex
