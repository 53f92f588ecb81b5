import TextIndex.Proofs.Engine.AllOrNothing
import TextIndex.Proofs.Engine.Session
import TextIndex.Proofs.Snapshot.Counting

/-!
# The accounts of an index

An index counts what is asked of it at several stages of a commit, and a commit may end at each of
them. Whatever the calls were and whichever of them failed, the counters are sums over the calls:
over those that were taken on, over those that gave an error, and over those that were committed.
The documents that are counted as hidden are those that are hidden in the root.

* `Attempt`: edits that were to be committed together, with what was known before.
* `BatchCounters.ofAttempts`, `PublishCounters.ofAttempts`: what is to be counted of attempts.
* `Engine.Recorded`: the runs of an index, with all attempts.
* `Engine.Exact.commit`: what one commit counts.
* `Engine.Recorded.counters_exact`: the counters are exact after every run.
-/

namespace TextIndex

open TextIndex.Number

/-! ### What is to be counted -/

namespace Edit

/-- The document that an edit puts cannot be analyzed. -/
def fails (config : Config) (edit : Edit) : Bool :=
  edit.document?.any fun document => !config.accepts (document.id.getD "") document

/-- The document that an edit puts, if it can be analyzed. -/
def accepted? (config : Config) (edit : Edit) : Option Document :=
  edit.document?.filter fun document => config.accepts (document.id.getD "") document

end Edit

/-- Edits that were to be committed together, with the index before that, and the answer. -/
structure Attempt where
  before : Engine
  edits : List Edit
  result : Except IndexError Receipt

namespace Attempt

variable (attempt : Attempt)

/-- The index was open and the batch of the edits has no fault. -/
def isTakenOn : Bool :=
  attempt.before.checkOpen.isOk && (Batch.ofEdits attempt.edits).validate.isOk

def isCommitted : Bool :=
  attempt.result.isOk

/-- The edits were committed, or would have been if a segment could hold the documents and there
were a number left for it. -/
def isAnalyzed : Bool :=
  match attempt.result with
  | .ok _ | .error (.argument (.tooManyDocuments _)) | .error (.index .numbersUsedUp) => true
  | .error _ => false

/-- How many edits of a kind last. -/
def count (kind : Edit.Kind) : Nat :=
  (Edit.lasting attempt.edits).countP (·.kind = kind)

/-- How many documents failed the analysis: none if the pool did not take them. -/
def failures : Nat :=
  if attempt.before.pool.closed then 0
  else (Edit.lasting attempt.edits).countP (Edit.fails attempt.before.config)

/-- The bytes of the texts of the documents that passed the analysis, as their users gave them. -/
def textBytes : Nat :=
  total (((Edit.lasting attempt.edits).filterMap (Edit.accepted? attempt.before.config)).map
    (·.plainTextBytes))

end Attempt

/-- What is to be counted of batches. -/
def BatchCounters.ofAttempts (attempts : List Attempt) : BatchCounters :=
  let taken := attempts.filter (·.isTakenOn)
  { batches := taken.length
    updates := total (taken.map (·.count .put))
    deletes := total (taken.map (·.count .remove))
    metadataSets := total (taken.map (·.count .setMetadata))
    metadataRemovals := total (taken.map (·.count .removeMetadata))
    failures := total (taken.map (·.failures))
    plainTextBytes := total ((taken.filter (·.isAnalyzed)).map (·.textBytes))
    errors := attempts.countP (!·.isCommitted) }

/-- What is to be counted of introductions that led to a root. None is refused, given up or made
twice. -/
def PublishCounters.ofAttempts (attempts : List Attempt) (root : Snapshot) : PublishCounters where
  applied := attempts.countP (·.isCommitted)
  rejected := 0
  abandoned := 0
  recomputed := 0
  obsoleted := root.hiddenCount
  version := attempts.countP (·.isCommitted)

/-! ### The documents of a batch -/

/-- The identity field of a document has no part in the bytes of its own fields. -/
theorem ownTextBytes_eq {analyzed : AnalyzedDocument} {document : Document} {id : String}
    (unreserved : document.usesReservedName = false)
    (ofDocument : analyzed.document = document.withIdentity id) :
    analyzed.ownTextBytes = document.plainTextBytes := by
  have others : ∀ field ∈ document.fields, field.name ≠ identityName := by
    intro field member same
    simp only [Document.usesReservedName, Document.hasField, Bool.or_eq_false_iff,
      List.any_eq_false] at unreserved
    exact unreserved.1 field member (by simpa using same)
  unfold AnalyzedDocument.ownTextBytes Document.plainTextBytes
  rw [ofDocument]
  show total (((document.fields ++ [Field.identity id]).filter _).map _) = _
  have own : document.fields.filter (·.name != identityName) = document.fields :=
    List.filter_eq_self.mpr fun field member => by simpa using others field member
  rw [List.filter_append, own]
  simp [Field.identity]

/-- The documents that a batch puts and that can be analyzed. -/
def Batch.acceptedDocuments (batch : Batch) (config : Config) : List Document :=
  (batch.putDocuments.filter fun entry => config.accepts entry.1 entry.2).map (·.2)

/-- What is counted of the texts of a batch are the texts that its user gave. -/
theorem Batch.total_ownTextBytes {batch : Batch} (valid : batch.validate = .ok ())
    (config : Config) : total ((batch.analyzed config).map (·.ownTextBytes)) =
      total ((batch.acceptedDocuments config).map (·.plainTextBytes)) := by
  unfold Batch.analyzed Batch.acceptedDocuments
  have held : ∀ entry ∈ batch.putDocuments, batch.documents[entry.1]? = some (some entry.2) :=
    fun _ member => mem_putDocuments.mp member
  generalize batch.putDocuments = entries at held ⊢
  induction entries with
  | nil => rfl
  | cons first rest ih =>
    rw [List.forall_mem_cons] at held
    have others := ih held.2
    cases done : config.outcome first.1 first.2 with
    | error error =>
      have refused : config.accepts first.1 first.2 = false :=
        Config.accepts_eq_false.mpr ⟨error, done⟩
      have nothing : (config.outcome first.1 first.2).toOption = none := by
        rw [done]
        rfl
      simp only [List.filterMap_cons, nothing, List.filter_cons, refused]
      exact others
    | ok analyzed =>
      have accepted : config.accepts first.1 first.2 = true := by
        rw [Config.accepts, done]
        rfl
      have ofDocument := (analyzed_of_outcome (batch.keyed _ _ held.1) done).2.2
      have own := ownTextBytes_eq (usesReservedName_of_validate valid held.1) ofDocument
      have analyzes : (config.outcome first.1 first.2).toOption = some analyzed := by
        rw [done]
        rfl
      simp only [List.filterMap_cons, analyzes, List.filter_cons, accepted, if_true,
        List.map_cons, total_cons, own]
      exact congrArg _ others

/-- Of the edits that a batch gathers, those that last tell the documents that can be analyzed. -/
theorem Batch.acceptedDocuments_perm (edits : List Edit) (config : Config) :
    ((ofEdits edits).acceptedDocuments config).Perm
      ((Edit.lasting edits).filterMap (Edit.accepted? config)) := by
  have puts := ((putDocuments_ofEdits_perm edits).filter fun entry =>
    config.accepts entry.1 entry.2).map (·.2)
  refine puts.trans (List.Perm.of_eq ?_)
  rw [List.filter_filterMap, List.map_filterMap]
  refine List.filterMap_congr fun edit _ => ?_
  unfold Edit.accepted?
  cases edit.document? with
  | none => rfl
  | some document => by_cases accepts : config.accepts (document.id.getD "") document <;>
      simp [Option.filter, accepts]

/-- They tell how many of the others there are, too. -/
theorem Batch.length_failures_ofEdits (edits : List Edit) (config : Config) :
    ((ofEdits edits).failures config).length =
      (Edit.lasting edits).countP (Edit.fails config) := by
  have failed (entry : String × Document) : (config.failure? entry.1 entry.2).isSome =
      !config.accepts entry.1 entry.2 := by
    unfold Config.failure? Config.accepts
    cases config.outcome entry.1 entry.2 <;> rfl
  unfold failures
  rw [List.length_filterMap_eq_countP, (putDocuments_ofEdits_perm edits).countP_eq,
    List.countP_filterMap]
  refine List.countP_congr fun edit _ => ?_
  unfold Edit.fails
  cases edit.document? <;> simp [failed]

namespace Engine

/-- The attempt that a call makes. -/
def attempt (engine : Engine) (call : Call) : Attempt :=
  ⟨engine, call.edits, (engine.call call).1⟩

/-- The runs of an index that nobody else writes to, in which no deadline passes, each with what was
attempted so far, one call after the other. Somebody else may use a shared pool meanwhile and may
close it, but nobody opens it again. -/
inductive Recorded (config : Config) : List Attempt → Engine → Prop
  | opened {engine : Engine} (opened : engine.Opened config) : Recorded config [] engine
  | calls {attempts : List Attempt} {engine : Engine} (before : Recorded config attempts engine)
      (call : Call) : Recorded config (attempts ++ [engine.attempt call]) (engine.call call).2
  | closes {attempts : List Attempt} {engine : Engine} (before : Recorded config attempts engine) :
      Recorded config attempts engine.close.2
  | sharesPool {attempts : List Attempt} {engine : Engine} {pool : WorkerPool}
      (before : Recorded config attempts engine) (shared : engine.ownsPool = false)
      (used : pool.Reachable) (stays : engine.pool.closed = true → pool.closed = true) :
      Recorded config attempts { engine with pool }

/-- What is counted is what is to be counted. -/
structure Exact (attempts : List Attempt) (engine : Engine) : Prop where
  batches : engine.counters = .ofAttempts attempts
  introductions : engine.publisher.counters = .ofAttempts attempts engine.root
  version : engine.root.version = attempts.countP (·.isCommitted)

section Attempt

variable {engine : Engine} {edits : List Edit} {result : Except IndexError Receipt}

theorem Ready.isTakenOn (ready : engine.Ready) (valid : (Batch.ofEdits edits).validate = .ok ()) :
    Attempt.isTakenOn ⟨engine, edits, result⟩ = true := by
  unfold Attempt.isTakenOn
  rw [ready.checkOpen, valid]
  rfl

/-- The documents of a batch that the pool takes fail as they would anywhere. -/
theorem failures_attempt (served : engine.Serves (.ofEdits edits)) :
    ((Batch.ofEdits edits).failures engine.config).length =
      Attempt.failures ⟨engine, edits, result⟩ := by
  unfold Attempt.failures
  by_cases isClosed : engine.pool.closed
  · have nothing : (Batch.ofEdits edits).putDocuments = [] := by
      by_contra works
      exact served ⟨isClosed, Batch.putDocuments_ne_nil.mp works⟩
    rw [if_pos isClosed, Batch.failures, nothing]
    rfl
  · rw [if_neg isClosed, Batch.length_failures_ofEdits]

theorem textBytes_attempt (valid : (Batch.ofEdits edits).validate = .ok ()) :
    total (((Batch.ofEdits edits).analyzed engine.config).map (·.ownTextBytes)) =
      Attempt.textBytes ⟨engine, edits, result⟩ := by
  rw [Batch.total_ownTextBytes valid]
  exact total_perm ((Batch.acceptedDocuments_perm _ _).map _)

end Attempt

end Engine

/-! ### One more attempt -/

section Append

variable {attempts : List Attempt} {last : Attempt}

theorem BatchCounters.record_ofEdits (counters : BatchCounters) (attempt : Attempt) :
    counters.record (.ofEdits attempt.edits) = { counters with
      batches := counters.batches + 1
      updates := counters.updates + attempt.count .put
      deletes := counters.deletes + attempt.count .remove
      metadataSets := counters.metadataSets + attempt.count .setMetadata
      metadataRemovals := counters.metadataRemovals + attempt.count .removeMetadata } := by
  obtain ⟨puts, removals, metadataSets, metadataRemovals⟩ :=
    Batch.count_kinds_ofEdits attempt.edits
  unfold record
  rw [puts, removals, metadataSets, metadataRemovals]
  rfl

theorem BatchCounters.ofAttempts_refused (refused : last.isTakenOn = false)
    (failed : last.isCommitted = false) :
    ofAttempts (attempts ++ [last]) = (ofAttempts attempts).addError := by
  simp [ofAttempts, addError, refused, failed]

section TakenOn

variable (taken : last.isTakenOn = true) {failures : List DocumentFailure}
  (failing : failures.length = last.failures)

include taken failing

theorem BatchCounters.ofAttempts_failed (failed : last.isCommitted = false)
    (early : last.isAnalyzed = false) : ofAttempts (attempts ++ [last]) =
      (((ofAttempts attempts).record (.ofEdits last.edits)).addFailures failures).addError := by
  rw [record_ofEdits]
  simp [ofAttempts, addError, addFailures, taken, failing, failed, early]

variable {documents : List AnalyzedDocument}
  (texts : total (documents.map (·.ownTextBytes)) = last.textBytes)
  (analyzed : last.isAnalyzed = true)

include texts analyzed

theorem BatchCounters.ofAttempts_failed_late (failed : last.isCommitted = false) :
    ofAttempts (attempts ++ [last]) =
      ((((ofAttempts attempts).record (.ofEdits last.edits)).addFailures failures).addTexts
        documents).addError := by
  rw [record_ofEdits]
  simp [ofAttempts, addError, addFailures, addTexts, taken, failing, failed, analyzed, texts]

theorem BatchCounters.ofAttempts_committed (committed : last.isCommitted = true) :
    ofAttempts (attempts ++ [last]) =
      (((ofAttempts attempts).record (.ofEdits last.edits)).addFailures failures).addTexts
        documents := by
  rw [record_ofEdits]
  simp [ofAttempts, addFailures, addTexts, taken, failing, committed, analyzed, texts]

end TakenOn

theorem PublishCounters.ofAttempts_failed (failed : last.isCommitted = false) (root : Snapshot) :
    ofAttempts (attempts ++ [last]) root = ofAttempts attempts root := by
  simp [ofAttempts, failed]

theorem PublishCounters.ofAttempts_committed (committed : last.isCommitted = true)
    {before after : Snapshot} {hidden : Nat}
    (hides : after.hiddenCount = before.hiddenCount + hidden) :
    ofAttempts (attempts ++ [last]) after = Publisher.record (ofAttempts attempts before)
      (attempts.countP (·.isCommitted) + 1) ⟨0, hidden⟩ := by
  simp [ofAttempts, Publisher.record, committed, hides]

end Append

namespace Engine

variable {config : Config} {batches : List Batch} {engine : Engine} {attempts : List Attempt}

section Commit

variable {edits : List Edit} {error : IndexError} (exact : engine.Exact attempts)

include exact

/-- Edits that are not committed count as an error, with what else was counted of them. -/
theorem Exact.failed {counters : BatchCounters}
    (counted : .ofAttempts (attempts ++ [⟨engine, edits, .error error⟩]) = counters) :
    (engine.withCounters counters).Exact (attempts ++ [⟨engine, edits, .error error⟩]) where
  batches := counted.symm
  introductions := by
    rw [PublishCounters.ofAttempts_failed rfl]
    exact exact.introductions
  version := by
    rw [List.countP_append]
    exact exact.version

/-- Nothing else is counted of edits that are not taken on. -/
theorem Exact.refused (refused : Attempt.isTakenOn ⟨engine, edits, .error error⟩ = false) :
    (engine.withCounters engine.counters.addError).Exact
      (attempts ++ [⟨engine, edits, .error error⟩]) := by
  refine exact.failed ?_
  rw [BatchCounters.ofAttempts_refused refused rfl, ← exact.batches]

variable (ready : engine.Ready) (valid : (Batch.ofEdits edits).validate = .ok ())

include ready valid

/-- Of edits that fail in the analysis the documents that failed are counted. -/
theorem Exact.failed_early (early : Attempt.isAnalyzed ⟨engine, edits, .error error⟩ = false)
    {failures : List DocumentFailure}
    (failing : failures.length = Attempt.failures ⟨engine, edits, .error error⟩) :
    (engine.withCounters
      ((engine.counters.record (.ofEdits edits)).addFailures failures).addError).Exact
        (attempts ++ [⟨engine, edits, .error error⟩]) := by
  refine exact.failed ?_
  rw [BatchCounters.ofAttempts_failed (ready.isTakenOn valid) failing rfl early, ← exact.batches]

/-- Of edits that fail after it the texts are counted, too. -/
theorem Exact.failed_late (served : engine.Serves (.ofEdits edits))
    (analyzed : Attempt.isAnalyzed ⟨engine, edits, .error error⟩ = true) :
    (engine.withCounters ((engine.counters.record (.ofEdits edits)).addAnswers
      (engine.answers (.ofEdits edits))).addError).Exact
        (attempts ++ [⟨engine, edits, .error error⟩]) := by
  refine exact.failed ?_
  rw [BatchCounters.ofAttempts_failed_late (ready.isTakenOn valid) (failures_attempt served)
    (textBytes_attempt valid) analyzed rfl, ← exact.batches, BatchCounters.addAnswers,
    failures_answers, analyzed_answers]

omit valid

/-- Edits that are committed count with all that came of them. -/
theorem Exact.passed (passes : engine.Passes (.ofEdits edits)) :
    (engine.commit (.ofEdits edits)).2.Exact
      (attempts ++ [⟨engine, edits, (engine.commit (.ofEdits edits)).1⟩]) := by
  rw [@commit_eq_of_passes _ _ false ready passes rfl]
  refine ⟨?_, ?_, ?_⟩
  · refine (Eq.trans (BatchCounters.ofAttempts_committed (ready.isTakenOn passes.valid)
      (failures_attempt passes.served) (textBytes_attempt passes.valid) rfl rfl) ?_).symm
    rw [← exact.batches, ← failures_answers, ← analyzed_answers]
    rfl
  · have counted := @counters_publish engine _ false ready passes rfl
    have hidden := ready.sound.hiddenCount_splice ready.clear
      (@proper_contribution engine _ passes.valid)
    rw [exact.introductions, exact.version] at counted
    refine counted.trans ?_
    show _ = PublishCounters.ofAttempts _ (engine.publish _).2.root
    rw [root_publish ready passes rfl, PublishCounters.ofAttempts_committed rfl hidden]
  · show (engine.publish _).2.root.version = _
    rw [root_publish ready passes rfl, List.countP_append, ← exact.version]
    rfl

end Commit

/-- **A commit counts what is to be counted of it**, whether it leads to anything or not. -/
theorem Exact.commit (exact : engine.Exact attempts) (standing : engine.Standing config batches)
    (edits : List Edit) : (engine.commit (.ofEdits edits)).2.Exact
      (attempts ++ [⟨engine, edits, (engine.commit (.ofEdits edits)).1⟩]) := by
  rcases stops_or_passes engine (.ofEdits edits) with ⟨error, stops⟩ | passes
  · cases stops with
    | closed isClosed =>
      rw [commit_of_closed isClosed]
      refine exact.refused ?_
      unfold Attempt.isTakenOn checkOpen
      rw [if_pos isClosed]
      rfl
    | @invalid fault isOpen faulty =>
      have invalid : (Batch.ofEdits edits).validate = .error (.argument fault) := by
        unfold Batch.validate
        rw [faulty]
      rw [commit_of_invalid (standing.ready isOpen).checkOpen invalid]
      refine exact.refused ?_
      unfold Attempt.isTakenOn
      rw [invalid]
      exact Bool.and_false _
    | unserved isOpen valid unserved =>
      have ready := standing.ready isOpen
      have nothing : ([] : List DocumentFailure).length =
          Attempt.failures ⟨engine, edits, .error .closed⟩ :=
        (if_pos (not_not.mp unserved).1).symm
      rw [commit_of_unserved ready valid unserved]
      exact exact.failed_early ready valid rfl nothing
    | rejected isOpen valid served rejects =>
      have ready := standing.ready isOpen
      rw [commit_of_rejected ready valid served rejects]
      exact exact.failed_early ready valid rfl (failures_attempt served)
    | tooMany isOpen valid served kept exceeds =>
      have ready := standing.ready isOpen
      rw [commit_of_tooMany ready valid served kept exceeds]
      exact exact.failed_late ready valid served rfl
    | usedUp isOpen valid served kept fits usedUp =>
      have ready := standing.ready isOpen
      rw [commit_of_usedUp ready valid served kept fits usedUp]
      exact exact.failed_late ready valid served rfl
  · exact exact.passed (standing.ready passes.isOpen) passes

/-- A call counts as the commit that it makes. -/
theorem Exact.call (exact : engine.Exact attempts) (standing : engine.Standing config batches)
    (call : Call) : (engine.call call).2.Exact (attempts ++ [engine.attempt call]) := by
  unfold attempt
  rw [call_eq_commit]
  exact exact.commit standing call.edits

/-- Closing counts nothing. -/
theorem Exact.close (exact : engine.Exact attempts) (standing : engine.Standing config batches) :
    engine.close.2.Exact attempts := by
  unfold Engine.close
  by_cases isClosed : engine.closed
  · rw [if_pos isClosed]
    exact exact
  · rw [if_neg isClosed]
    obtain ⟨root, counters⟩ :=
      (standing.ready (Bool.not_eq_true _ ▸ isClosed)).rests.settle_beginClose engine.root
    refine ⟨exact.batches, ?_, ?_⟩
    · show (engine.publisher.beginClose.settle engine.root).2.counters =
        .ofAttempts attempts (engine.publisher.beginClose.settle engine.root).1
      rw [root, counters]
      exact exact.introductions
    · show (engine.publisher.beginClose.settle engine.root).1.version = _
      rw [root]
      exact exact.version

theorem exact_of_opened (opened : engine.Opened config) : engine.Exact [] := by
  obtain ⟨pool, -, ownsPool, rfl⟩ := opened.eq
  exact ⟨rfl, rfl, rfl⟩

/-- The committed batches of a run are those that the index is made of. -/
theorem Recorded.reached (recorded : engine.Recorded config attempts) :
    engine.Reached config
      ((attempts.filter (·.isCommitted)).map fun attempt => .ofEdits attempt.edits) := by
  induction recorded with
  | opened opened => exact .opened opened
  | @calls attempts engine _ call ih =>
    unfold attempt
    rw [call_eq_commit, List.filter_append, List.map_append]
    cases done : engine.commit (.ofEdits call.edits) with
    | mk result next =>
      cases result with
      | ok receipt => exact ih.commits done
      | error error => exact (List.append_nil _).symm ▸ ih.fails done
  | closes _ ih => exact ih.closes
  | sharesPool _ shared used stays ih => exact ih.sharesPool shared used stays

theorem Recorded.exact (recorded : engine.Recorded config attempts) : engine.Exact attempts := by
  induction recorded with
  | opened opened => exact exact_of_opened opened
  | calls before call ih => exact ih.call before.reached.standing call
  | closes before ih => exact ih.close before.reached.standing
  | sharesPool _ _ _ _ ih => exact ⟨ih.batches, ih.introductions, ih.version⟩

end Engine

end TextIndex
