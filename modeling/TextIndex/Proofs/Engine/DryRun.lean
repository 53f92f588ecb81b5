import TextIndex.Proofs.Analysis.Refusals
import TextIndex.Proofs.Engine.Gathering
import TextIndex.Proofs.Engine.Identification

/-!
# Analysis before a put

A document can be analyzed without being indexed, to see what it would come to. If the index is open
and rejects what cannot be analyzed, then nothing stops the batch that puts the document but the
document itself. It is committed exactly if it is well named and can be analyzed, and the segment
that is published is the inversion of what the analysis gave. The names of the composite fields are
not looked at by the analysis, so it may give a result for a document that is not committed.

* `Edit.validate_batch_put`, `Edit.failures_batch_put`: what is known of a batch with one document.
* `Engine.analyze_eq_ok_iff`: what the analysis looks at.
* `Snapshot.HoldsAlone`: that a segment shows one document as its analysis says.
* `Engine.Reached.put_of_analyze`: what the analysis tells of a put.
-/

namespace TextIndex

/-! ### A batch with one document -/

namespace Edit

variable {document : Document} {id : String} (keyed : document.id = some id) (fresh : String)

include keyed

theorem toList_documents_batch_put :
    (put document fresh).batch.documents.toList = [(id, some document)] := by
  have sameId : document.id.getD fresh = id := by rw [keyed, Option.getD_some]
  have same : { document with id := some id } = document := by rw [← keyed]
  refine (toList_insert_empty _ _).trans ?_
  rw [sameId, same]

theorem putDocuments_batch_put : (put document fresh).batch.putDocuments = [(id, document)] := by
  unfold Batch.putDocuments
  rw [toList_documents_batch_put keyed]
  rfl

theorem fault?_batch_put :
    (put document fresh).batch.fault? = Batch.editFault? id (some document) := by
  have noMetadata : (put document fresh).batch.metadata.contains [] = false :=
    Std.ExtTreeMap.contains_empty
  unfold Batch.fault?
  rw [toList_documents_batch_put keyed, List.findSome?_singleton, noMetadata]
  cases Batch.editFault? id (some document) <;> rfl

theorem validate_batch_put (named : id ≠ "") :
    (put document fresh).batch.validate = .ok () ↔ document.WellNamed := by
  have faultless : Batch.editFault? id (some document) = none ↔ document.WellNamed := by
    rw [Batch.editFault?_eq_none]
    simp [named]
  rw [← faultless, ← fault?_batch_put keyed fresh]
  unfold Batch.validate
  cases (put document fresh).batch.fault? <;> simp

theorem analyzed_batch_put (config : Config) :
    (put document fresh).batch.analyzed config = (config.outcome id document).toOption.toList := by
  unfold Batch.analyzed
  rw [putDocuments_batch_put keyed, List.filterMap_cons, List.filterMap_nil]
  cases (config.outcome id document).toOption <;> rfl

theorem failures_batch_put (config : Config) :
    (put document fresh).batch.failures config = (config.failure? id document).toList := by
  unfold Batch.failures
  rw [putDocuments_batch_put keyed, List.filterMap_cons, List.filterMap_nil]
  cases config.failure? id document <;> rfl

end Edit

/-! ### The analysis -/

namespace Engine

variable {engine : Engine} {document : Document} {id : String}

/-- The analysis looks at the names of the plain fields only. -/
theorem analyze_eq_ok_iff (keyed : document.id = some id) {analyzed : AnalyzedDocument} :
    engine.analyze document = .ok analyzed ↔
      (∀ field ∈ document.fields, field.name ≠ identityName) ∧
        engine.config.outcome id document = .ok analyzed := by
  have unreserved := @Document.hasField_eq_false document identityName
  unfold analyze analysisFault? Config.outcome Work.outcome
  rw [keyed, ← unreserved]
  cases document.hasField identityName with
  | true => simp
  | false =>
    simp only [Option.getD_some]
    cases analyzeDocument engine.config.analyzers engine.config.withPlaces
      (document.withIdentity id) <;> simp [Except.mapError]

/-- Where the names of the plain fields are as they should be, the analysis fails with what makes a
put fail. -/
theorem outcome_of_analyze_eq_error (keyed : document.id = some id)
    (unreserved : ∀ field ∈ document.fields, field.name ≠ identityName) {fault : AnalyzerFault}
    (failed : engine.analyze document = .error fault) :
    engine.config.outcome id document = .error fault.toError := by
  rw [← Document.hasField_eq_false] at unreserved
  unfold analyze analysisFault? at failed
  simp only [keyed, unreserved, Bool.false_eq_true, if_false, Option.getD_some] at failed
  unfold Config.outcome Work.outcome
  rw [failed]
  rfl

end Engine

/-! ### The put -/

/-- A segment of a snapshot holds one document and nothing else. The document is visible in it, and
is told of as its analysis says. -/
structure Snapshot.HoldsAlone (snapshot : Snapshot) (number : Nat) (analyzed : AnalyzedDocument) :
    Prop where
  segment : snapshot.segment? number = some (.ofAnalyzed [analyzed])
  inverts : (Segment.ofAnalyzed [analyzed]).Inverts [analyzed]
  locations : snapshot.locations analyzed.id = [(number, 0)]

namespace Engine

variable {config : Config} {batches : List Batch} {engine : Engine} {batch : Batch}
  {document : Document} {id : String}

/-- A batch of one analyzed document makes a segment that holds it alone. -/
theorem holdsAlone_splice (ready : engine.Ready) (valid : batch.validate = .ok ())
    {analyzed : AnalyzedDocument} (alone : batch.analyzed engine.config = [analyzed]) :
    (engine.root.splice (engine.publisher.issued + 1) (engine.contribution batch)).HoldsAlone
      (engine.publisher.issued + 1) analyzed := by
  have member : analyzed ∈ batch.analyzed engine.config := by simp [alone]
  obtain ⟨document, accepted, -, analysis⟩ := Batch.exists_accepted_of_mem_analyzed member
  have genuine : ∀ other ∈ [analyzed], other.FromAnalysis := by
    simpa using ⟨_, _, _, analysis⟩
  have inverts : (Segment.ofAnalyzed [analyzed]).Inverts [analyzed] := by
    have general := (Segment.inverts_ofAnalyzed genuine).2.2
    rwa [show Segment.inOrder [analyzed] = [analyzed] from List.mergeSort_singleton analyzed]
      at general
  have segment : (engine.contribution batch).segment = .ofAnalyzed [analyzed] := by
    rw [segment_contribution, alone]
  refine ⟨?_, inverts, ?_⟩
  · rw [← segment]
    refine Snapshot.segment?_splice_self (fun listed isListed =>
      Nat.lt_succ_of_le (ready.issued listed isListed)) ?_
    rw [segment, inverts.docCount]
    exact Nat.one_ne_zero
  · obtain ⟨doc, single, stored⟩ := Batch.docNumbers_of_accepted valid accepted
    rw [alone, inverts.storedFields?] at stored
    obtain rfl : doc = 0 := by
      by_contra later
      rw [List.getElem?_eq_none (Nat.one_le_iff_ne_zero.mpr later)] at stored
      cases stored
    rw [Snapshot.locations_splice ready.sound (proper_contribution valid),
      if_pos (mem_touched_contribution.mpr (Batch.touches_of_accepted? accepted)), segment,
      ← alone, single]
    rfl

/-- The engine is open for what is put into it, and rejects what cannot be analyzed. -/
structure Strict (engine : Engine) : Prop where
  isOpen : engine.closed = false
  served : engine.pool.closed = false
  rejects : engine.config.policy = .reject

/-- Nothing but the document itself stops the batch that puts it. -/
theorem Strict.serves (strict : engine.Strict) (batch : Batch) : engine.Serves batch :=
  fun ⟨isClosed, _⟩ => Bool.noConfusion (strict.served.symm.trans isClosed)

section Put

variable (ready : engine.Ready) (strict : engine.Strict) (keyed : document.id = some id)
  (named : id ≠ "") (fresh : String)

include ready strict keyed named

theorem put_of_outcome_ok (wellNamed : document.WellNamed) {analyzed : AnalyzedDocument}
    (done : engine.config.outcome id document = .ok analyzed) :
    (engine.publisher.issued + 1 < UInt64.size →
      ∃ receipt, (engine.put document fresh).1 = .ok receipt ∧
        (engine.put document fresh).2.root.HoldsAlone receipt.segment analyzed) ∧
      (UInt64.size ≤ engine.publisher.issued + 1 →
        (engine.put document fresh).1 = .error (.index .numbersUsedUp)) := by
  let edit := Edit.put document fresh
  have valid : edit.batch.validate = .ok () :=
    (Edit.validate_batch_put keyed fresh named).mpr wellNamed
  have alone : edit.batch.analyzed engine.config = [analyzed] := by
    rw [Edit.analyzed_batch_put keyed, done]
    rfl
  have complete : edit.batch.failures engine.config = [] := by
    rw [Edit.failures_batch_put keyed, Config.failure?, done]
    rfl
  have kept := not_rejects_of_sane ⟨valid, complete⟩
  have fits := edit.fits_batch engine.config
  constructor
  · intro hasNumber
    have passes : engine.Passes edit.batch :=
      ⟨strict.isOpen, valid, strict.serves edit.batch, kept, fits,
        Publisher.hasNumber_iff.mpr hasNumber⟩
    obtain ⟨counters, answered⟩ := @commit_of_passes _ _ false ready passes rfl
    have committed : engine.put document fresh = _ := answered
    rw [committed]
    refine ⟨_, rfl, ?_⟩
    show (engine.publish _).2.root.HoldsAlone _ _
    rw [root_publish ready passes rfl]
    exact holdsAlone_splice ready valid alone
  · intro usedUp
    have answered := @commit_of_usedUp _ _ false ready valid (strict.serves edit.batch) kept fits
      (Publisher.hasNumber_eq_false_iff.mpr usedUp)
    exact congrArg Prod.fst answered

theorem put_of_outcome_error (wellNamed : document.WellNamed) {error : IndexError}
    (failed : engine.config.outcome id document = .error error) :
    (engine.put document fresh).1 = .error (.rejected [⟨id, error.message⟩]) := by
  let batch := (Edit.put document fresh).batch
  have valid : batch.validate = .ok () := (Edit.validate_batch_put keyed fresh named).mpr wellNamed
  have failures : batch.failures engine.config = [⟨id, error.message⟩] := by
    rw [Edit.failures_batch_put keyed, Config.failure?, failed]
    rfl
  have rejects : engine.Rejects batch :=
    rejects_iff.mpr ⟨by simp [failures], strict.rejects⟩
  have answered := @commit_of_rejected _ _ false ready valid (strict.serves batch) rejects
  rw [failures] at answered
  exact congrArg Prod.fst answered

omit named in
theorem put_of_not_wellNamed (illNamed : ¬document.WellNamed) :
    ∃ fault, Batch.editFault? id (some document) = some fault ∧
      (engine.put document fresh).1 = .error (.argument fault) := by
  have faulty : Batch.editFault? id (some document) ≠ none := fun faultless =>
    illNamed ((Batch.editFault?_eq_none.mp faultless).2 document rfl)
  obtain ⟨fault, isFault⟩ := Option.ne_none_iff_exists'.mp faulty
  refine ⟨fault, isFault, ?_⟩
  rw [← Edit.fault?_batch_put keyed fresh] at isFault
  obtain ⟨counters, answered, -⟩ := commit_of_stops (fun _ => ready)
    (.invalid strict.isOpen isFault) false
  exact congrArg Prod.fst answered

end Put

/-- **The analysis of a document tells what putting it comes to**, in an index that is open for it
and rejects what cannot be analyzed, as long as no deadline passes. A document that is well named is
committed exactly if the analysis succeeds and there is a number left, and then a new segment holds
it alone, as the analysis says. If the analysis fails, the batch is rejected with its message. A
document that is not well named is refused for its names, whatever the analysis says: those of its
composite fields are not looked at by it. -/
theorem Reached.put_of_analyze (reached : engine.Reached config batches) (strict : engine.Strict)
    (keyed : document.id = some id) (named : id ≠ "") (fresh : String) :
    let put := engine.put document fresh
    ((∃ receipt, put.1 = .ok receipt) ↔
        document.WellNamed ∧ (∃ analyzed, engine.analyze document = .ok analyzed) ∧
          engine.publisher.issued + 1 < UInt64.size) ∧
      (∀ receipt analyzed, put.1 = .ok receipt → engine.analyze document = .ok analyzed →
        put.2.root.HoldsAlone receipt.segment analyzed) ∧
      (document.WellNamed → ∀ fault, engine.analyze document = .error fault →
        put.1 = .error (.rejected [⟨id, fault.toError.message⟩])) ∧
      (document.WellNamed → ∀ analyzed, engine.analyze document = .ok analyzed →
        UInt64.size ≤ engine.publisher.issued + 1 → put.1 = .error (.index .numbersUsedUp)) ∧
      (¬document.WellNamed → ∃ fault, Batch.editFault? id (some document) = some fault ∧
        put.1 = .error (.argument fault)) := by
  intro put
  have ready := reached.standing.ready strict.isOpen
  by_cases wellNamed : document.WellNamed
  · cases outcome : engine.config.outcome id document with
    | ok analyzed =>
      have analysis : engine.analyze document = .ok analyzed :=
        (analyze_eq_ok_iff keyed).mpr ⟨wellNamed.fields, outcome⟩
      obtain ⟨committed, refused⟩ :=
        put_of_outcome_ok ready strict keyed named fresh wellNamed outcome
      have needsNumber : ∀ receipt, put.1 = .ok receipt →
          engine.publisher.issued + 1 < UInt64.size := by
        intro receipt done
        by_contra usedUp
        cases done.symm.trans (refused (Nat.le_of_not_lt usedUp))
      refine ⟨⟨fun ⟨receipt, done⟩ => ⟨wellNamed, ⟨analyzed, analysis⟩, needsNumber receipt done⟩,
        fun ⟨_, _, hasNumber⟩ => (committed hasNumber).imp fun _ done => done.1⟩,
        fun receipt other done otherAnalysis => ?_, fun _ fault failed => ?_,
        fun _ _ _ usedUp => refused usedUp, fun illNamed => absurd wellNamed illNamed⟩
      · obtain ⟨receipt, isReceipt, holds⟩ := committed (needsNumber receipt done)
        obtain rfl := Except.ok.inj (isReceipt.symm.trans done)
        obtain rfl := Except.ok.inj (analysis.symm.trans otherAnalysis)
        exact holds
      · cases analysis.symm.trans failed
    | error error =>
      have refused : put.1 = _ :=
        put_of_outcome_error ready strict keyed named fresh wellNamed outcome
      have noAnalysis : ¬∃ analyzed, engine.analyze document = .ok analyzed := by
        rintro ⟨analyzed, analysis⟩
        cases outcome.symm.trans ((analyze_eq_ok_iff keyed).mp analysis).2
      refine ⟨iff_of_false (by simp [refused]) fun analyzes => noAnalysis analyzes.2.1,
        by simp [refused], fun _ fault failed => ?_,
        fun _ analyzed analysis => absurd ⟨analyzed, analysis⟩ noAnalysis,
        fun illNamed => absurd wellNamed illNamed⟩
      obtain rfl := Except.error.inj
        (outcome.symm.trans (outcome_of_analyze_eq_error keyed wellNamed.fields failed))
      exact refused
  · obtain ⟨fault, isFault, refused⟩ :=
      put_of_not_wellNamed ready strict keyed fresh wellNamed
    have noReceipt : ∀ receipt, put.1 ≠ .ok receipt := by
      intro receipt done
      cases refused.symm.trans done
    exact ⟨iff_of_false (fun ⟨receipt, done⟩ => noReceipt receipt done) fun analyzes =>
      wellNamed analyzes.1, fun receipt _ done => absurd done (noReceipt receipt),
      fun isWellNamed => absurd isWellNamed wellNamed,
      fun isWellNamed => absurd isWellNamed wellNamed, fun _ => ⟨fault, isFault, refused⟩⟩

/-- A document with a title, and a composite field of the given name. -/
def titled (composite : String) : Document where
  id := some "a"
  fields := [⟨"title", .keyword "rust", {}⟩]
  composites := [{ name := composite }]

theorem strict_standard : standard.Strict := ⟨rfl, rfl, rfl⟩

theorem return_standard : standard.config.analyzers.Return := by
  intro field text words crashed
  unfold FieldAnalyzers.analyzeField FieldAnalyzers.analyzerOf at crashed
  split at crashed
  · cases crashed
  · rw [show standard.config.analyzers.byField = ∅ from rfl, Std.ExtTreeMap.getD_empty] at crashed
    cases crashed

/-- The title is all there is for the composite field, and both are in the first segment. -/
theorem put_of_analyze_titled :
    standard.Reached (.standard 1) [] ∧ (titled "all").id = some "a" ∧ (titled "all").WellNamed ∧
      ∃ analyzed, standard.analyze (titled "all") = .ok analyzed ∧ analyzed.lengthOf "all" = 1 ∧
        (standard.put (titled "all") "").1 = .ok ⟨1, 1, []⟩ ∧
        (standard.put (titled "all") "").2.root.HoldsAlone 1 analyzed := by
  have reached : standard.Reached (.standard 1) [] := .opened (.own openOwn_standard)
  have keyed : (titled "all").id = some "a" := rfl
  have wellNamed : (titled "all").WellNamed := Document.wellNamed_iff.mpr (by decide)
  have composed : (standard.analyze (titled "all")).toOption.map (·.lengthOf "all") = some 1 := by
    decide +kernel
  have done : (standard.put (titled "all") "").1 = .ok ⟨1, 1, []⟩ := by decide +kernel
  obtain ⟨-, holds, -⟩ := reached.put_of_analyze strict_standard keyed (by decide) ""
  cases analysis : standard.analyze (titled "all") with
  | error fault =>
    rw [analysis] at composed
    cases composed
  | ok analyzed =>
    rw [analysis] at composed
    exact ⟨reached, keyed, wellNamed, analyzed, rfl, Option.some.inj composed, done,
      holds _ analyzed done analysis⟩

/-- The analysis may succeed where a put does not. It passes over the name of a composite field that
is reserved. -/
theorem not_put_of_analyze :
    ¬∀ (config : Config) (batches : List Batch) (engine : Engine) (document : Document)
      (id fresh : String), engine.Reached config batches → engine.Strict →
        engine.config.analyzers.Return → document.id = some id → id ≠ "" →
          ((∃ receipt, (engine.put document fresh).1 = .ok receipt) ↔
            ∃ analyzed, engine.analyze document = .ok analyzed) := by
  intro agree
  have reached : standard.Reached (.standard 1) [] := .opened (.own openOwn_standard)
  have put : (standard.put (titled identityName) "").1 =
      .error (.argument (.reservedField "a" identityName)) := by decide +kernel
  have analyzes : (standard.analyze (titled identityName)).isOk := by decide +kernel
  have agrees := agree (.standard 1) [] standard (titled identityName) "a" "" reached
    strict_standard return_standard rfl (by decide)
  rw [put] at agrees
  cases analysis : standard.analyze (titled identityName) with
  | error fault =>
    rw [analysis] at analyzes
    cases analyzes
  | ok analyzed =>
    obtain ⟨receipt, done⟩ := agrees.mpr ⟨analyzed, analysis⟩
    cases done

end Engine

end TextIndex
