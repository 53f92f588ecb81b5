import TextIndex.Engine.Basic
import TextIndex.Proofs.Analysis.Answers
import TextIndex.Proofs.Analysis.IdentityField
import TextIndex.Proofs.Snapshot.Visibility

/-!
# What a batch introduces

A batch that is not refused introduces one segment, made of the documents that could be analyzed,
and touches the external ids of these and of the documents that it removes. A document that could
not be analyzed leaves no trace. Whatever the root is that the documents to hide were looked for in,
the rest of the introduction is the same.

* `Batch.Touches`, `Batch.accepted?`: what becomes of an external id, said without segments.
* `Batch.Fits`: that a segment can hold the documents of a batch.
* `Engine.proposal`: what a batch introduces, unless it is refused.
* `Engine.proposal?`: the same, if it comes so far, with the documents to hide looked for in any
  root.
* `Engine.contribution`: the same, but for the documents to hide.
* `Engine.proper_contribution`, `Engine.documentOf?_contribution`: what is known of its segment.
-/

namespace TextIndex

/-- What becomes of a document that is put under an external id. -/
def Config.outcome (config : Config) (id : String) (document : Document) : Outcome :=
  Work.outcome ⟨document.withIdentity id, config.analyzers, config.withPlaces⟩

/-- Whether a document that is put under an external id can be analyzed. -/
def Config.accepts (config : Config) (id : String) (document : Document) : Bool :=
  (config.outcome id document).isOk

/-- The failure of a document that is put under an external id, if it cannot be analyzed. -/
def Config.failure? (config : Config) (id : String) (document : Document) :
    Option DocumentFailure :=
  match config.outcome id document with
  | .ok _ => none
  | .error error => some ⟨id, error.message⟩

theorem Config.failure?_eq_some {config : Config} {id : String} {document : Document}
    {failure : DocumentFailure} : config.failure? id document = some failure ↔
      failure.id = id ∧ ∃ error, config.outcome id document = .error error ∧
        failure.reason = error.message := by
  unfold failure?
  cases config.outcome id document with
  | ok analyzed => simp
  | error error =>
    obtain ⟨other, reason⟩ := failure
    simp only [Option.some.injEq, DocumentFailure.mk.injEq, Except.error.injEq, exists_eq_left']
    exact and_congr eq_comm eq_comm

theorem Config.accepts_eq_false {config : Config} {id : String} {document : Document} :
    config.accepts id document = false ↔
      ∃ error, config.outcome id document = .error error := by
  unfold accepts
  cases config.outcome id document with
  | ok analyzed => exact ⟨fun same => (Bool.noConfusion same), fun ⟨_, same⟩ => nomatch same⟩
  | error error => exact ⟨fun _ => ⟨error, rfl⟩, fun _ => rfl⟩

namespace Batch

variable (batch : Batch) (config : Config) (id : String)

/-- A batch touches an external id if it removes the document or puts one that can be analyzed. -/
def Touches : Prop :=
  ∃ edit, batch.documents[id]? = some edit ∧ ∀ document, edit = some document →
    config.accepts id document

/-- The document that a batch puts under an external id, if it can be analyzed. -/
def accepted? : Option Document :=
  batch.documents[id]?.join.filter (config.accepts id)

/-- The documents of a batch that can be analyzed. -/
def analyzed : List AnalyzedDocument :=
  batch.putDocuments.filterMap fun entry => (config.outcome entry.1 entry.2).toOption

/-- A segment can hold the documents of a batch that can be analyzed: a word of 32 bits can tell
their number. -/
def Fits : Prop :=
  (batch.analyzed config).length < UInt32.size

instance : Decidable (batch.Fits config) :=
  inferInstanceAs (Decidable (_ < _))

/-- The failures of the other documents that a batch puts. -/
def failures : List DocumentFailure :=
  batch.putDocuments.filterMap fun entry => config.failure? entry.1 entry.2

variable {batch config id}

theorem mem_putDocuments {entry : String × Document} :
    entry ∈ batch.putDocuments ↔ batch.documents[entry.1]? = some (some entry.2) := by
  unfold putDocuments
  rw [List.mem_filterMap]
  constructor
  · rintro ⟨⟨key, edit⟩, member, put⟩
    obtain ⟨document, rfl, rfl⟩ := Option.map_eq_some_iff.mp put
    exact Std.ExtTreeMap.mem_toList_iff_getElem?_eq_some.mp member
  · intro held
    exact ⟨(entry.1, some entry.2), Std.ExtTreeMap.mem_toList_iff_getElem?_eq_some.mpr held, rfl⟩

theorem fits_iff : batch.Fits config ↔ (batch.analyzed config).length ≤ Segment.capacity :=
  (Nat.le_sub_one_iff_lt (by decide)).symm

theorem accepted?_eq_some {document : Document} :
    batch.accepted? config id = some document ↔
      batch.documents[id]? = some (some document) ∧ config.accepts id document := by
  unfold accepted?
  rw [Option.filter_eq_some_iff, Option.join_eq_some_iff]

/-- A document that a batch puts and that can be analyzed is touched. -/
theorem touches_of_accepted? {document : Document}
    (accepted : batch.accepted? config id = some document) : batch.Touches config id := by
  obtain ⟨held, accepts⟩ := accepted?_eq_some.mp accepted
  refine ⟨_, held, fun other same => ?_⟩
  rw [← Option.some.inj same]
  exact accepts

/-! ### What is analyzed -/

theorem analyzed_of_outcome {document : Document} {analyzed : AnalyzedDocument}
    (keyed : document.id = some id) (done : config.outcome id document = .ok analyzed) :
    analyzeDocument config.analyzers config.withPlaces (document.withIdentity id) = .ok analyzed ∧
      analyzed.id = id ∧ analyzed.document = document.withIdentity id := by
  unfold Config.outcome Work.outcome at done
  cases result : analyzeDocument config.analyzers config.withPlaces (document.withIdentity id) with
  | error fault =>
    rw [result] at done
    cases done
  | ok other =>
    rw [result] at done
    obtain rfl : other = analyzed := Except.ok.inj done
    obtain ⟨sameId, ofDocument, -⟩ := analyzeDocument_withIdentity keyed result
    exact ⟨rfl, sameId, ofDocument⟩

/-- The documents that can be analyzed are those accepted under their external ids. -/
theorem mem_analyzed {analyzed : AnalyzedDocument} :
    analyzed ∈ batch.analyzed config ↔
      ∃ id document, batch.accepted? config id = some document ∧
        config.outcome id document = .ok analyzed := by
  unfold Batch.analyzed
  rw [List.mem_filterMap]
  constructor
  · rintro ⟨⟨id, document⟩, member, done⟩
    cases result : config.outcome id document with
    | error error =>
      simp only [result] at done
      cases done
    | ok other =>
      simp only [result] at done
      obtain rfl : other = analyzed := Option.some.inj done
      refine ⟨id, document, accepted?_eq_some.mpr ⟨mem_putDocuments.mp member, ?_⟩, result⟩
      rw [Config.accepts, result]
      rfl
  · rintro ⟨id, document, accepted, done⟩
    refine ⟨(id, document), mem_putDocuments.mpr (accepted?_eq_some.mp accepted).1, ?_⟩
    simp only [done]
    rfl

/-- An analyzed document comes of the one that is accepted under its external id. -/
theorem exists_accepted_of_mem_analyzed {analyzed : AnalyzedDocument}
    (member : analyzed ∈ batch.analyzed config) :
    ∃ document, batch.accepted? config analyzed.id = some document ∧
      document.id = some analyzed.id ∧
      analyzeDocument config.analyzers config.withPlaces (document.withIdentity analyzed.id) =
        .ok analyzed := by
  obtain ⟨id, document, accepted, done⟩ := mem_analyzed.mp member
  have keyed := batch.keyed id document (accepted?_eq_some.mp accepted).1
  obtain ⟨analysis, rfl, -⟩ := analyzed_of_outcome keyed done
  exact ⟨document, accepted, keyed, analysis⟩

theorem ids_putDocuments_sublist :
    (batch.putDocuments.map Prod.fst).Sublist (batch.documents.toList.map Prod.fst) :=
  map_filterMap_sublist fun entry _ result put => by
    obtain ⟨document, _, rfl⟩ := Option.map_eq_some_iff.mp put
    rfl

theorem nodup_ids_putDocuments : (batch.putDocuments.map Prod.fst).Nodup :=
  (nodup_map_fst_toList batch.documents).sublist ids_putDocuments_sublist

theorem length_analyzed_le : (batch.analyzed config).length ≤ batch.documents.size := by
  rw [← Std.ExtTreeMap.length_toList]
  unfold analyzed putDocuments
  exact Nat.le_trans (List.length_filterMap_le _ _) (List.length_filterMap_le _ _)

/-- The documents that can be analyzed come in the order in which they are put. -/
theorem ids_analyzed : (batch.analyzed config).map (·.id) =
    (batch.putDocuments.filter fun entry => config.accepts entry.1 entry.2).map Prod.fst := by
  unfold analyzed
  rw [List.map_filterMap, ← List.filterMap_eq_map, List.filterMap_filter]
  refine List.filterMap_congr fun entry member => ?_
  unfold Config.accepts
  cases done : config.outcome entry.1 entry.2 with
  | error error => rfl
  | ok analyzed =>
    have keyed := batch.keyed _ _ (mem_putDocuments.mp member)
    exact congrArg some (analyzed_of_outcome keyed done).2.1

theorem nodup_ids_analyzed : ((batch.analyzed config).map (·.id)).Nodup := by
  rw [ids_analyzed]
  exact nodup_ids_putDocuments.sublist (List.filter_sublist.map Prod.fst)

theorem mem_failures {failure : DocumentFailure} :
    failure ∈ batch.failures config ↔
      ∃ document error, batch.documents[failure.id]? = some (some document) ∧
        config.outcome failure.id document = .error error ∧ failure.reason = error.message := by
  unfold failures
  rw [List.mem_filterMap]
  constructor
  · rintro ⟨⟨id, document⟩, member, failed⟩
    obtain ⟨rfl, error, refused, reason⟩ := Config.failure?_eq_some.mp failed
    exact ⟨document, error, mem_putDocuments.mp member, refused, reason⟩
  · rintro ⟨document, error, held, refused, reason⟩
    exact ⟨(failure.id, document), mem_putDocuments.mpr held,
      Config.failure?_eq_some.mpr ⟨rfl, error, refused, reason⟩⟩

/-- The failures are those of the documents that are put and cannot be analyzed. -/
theorem exists_failure_iff :
    (∃ failure ∈ batch.failures config, failure.id = id) ↔
      ∃ document, batch.documents[id]? = some (some document) ∧
        config.accepts id document = false := by
  simp only [mem_failures, Config.accepts_eq_false]
  constructor
  · rintro ⟨failure, ⟨document, error, held, refused, -⟩, rfl⟩
    exact ⟨document, held, error, refused⟩
  · rintro ⟨document, held, error, refused⟩
    exact ⟨⟨id, error.message⟩, ⟨document, error, held, refused, rfl⟩, rfl⟩

theorem nodup_ids_failures : ((batch.failures config).map (·.id)).Nodup :=
  nodup_ids_putDocuments.sublist
    (map_filterMap_sublist fun _ _ _ failed => (Config.failure?_eq_some.mp failed).1)

/-- A batch is valid exactly if no edit has a fault and no key of the metadata is empty. -/
theorem validate_eq_ok : batch.validate = .ok () ↔
    (∀ entry ∈ batch.documents.toList, editFault? entry.1 entry.2 = none) ∧
      batch.metadata.contains [] = false := by
  have noFault : batch.validate = .ok () ↔ batch.fault? = none := by
    unfold validate
    cases batch.fault? <;> simp
  rw [noFault, ← List.findSome?_eq_none_iff]
  unfold fault?
  cases batch.documents.toList.findSome? fun entry => editFault? entry.1 entry.2 with
  | some fault => simp
  | none => cases batch.metadata.contains [] <;> simp

/-- No document of a batch that was checked uses the reserved name. -/
theorem usesReservedName_of_validate (valid : batch.validate = .ok ()) {document : Document}
    (held : batch.documents[id]? = some (some document)) : document.usesReservedName = false := by
  have clear := (validate_eq_ok.mp valid).1 (id, some document)
    (Std.ExtTreeMap.mem_toList_iff_getElem?_eq_some.mpr held)
  unfold editFault? at clear
  split at clear
  · cases clear
  · by_contra used
    rw [Bool.not_eq_false] at used
    simp [used] at clear

/-- The documents of a batch that was checked are identified. -/
theorem identified_analyzed (valid : batch.validate = .ok ()) :
    ∀ analyzed ∈ batch.analyzed config, analyzed.Identified := by
  intro analyzed member
  obtain ⟨document, accepted, keyed, analysis⟩ := exists_accepted_of_mem_analyzed member
  have unreserved := usesReservedName_of_validate valid (accepted?_eq_some.mp accepted).1
  exact identified_of_analyzeDocument keyed unreserved analysis

/-! ### The segment of a batch -/

section Segment

variable (valid : batch.validate = .ok ())

include valid

theorem sound_segment : (Segment.ofAnalyzed (batch.analyzed config)).Sound :=
  Segment.sound_ofAnalyzed (identified_analyzed valid) nodup_ids_analyzed

/-- A document that is accepted has one place in the segment. -/
theorem docNumbers_of_accepted {document : Document}
    (accepted : batch.accepted? config id = some document) :
    ∃ doc, ((Segment.ofAnalyzed (batch.analyzed config)).docNumbers [id]).toList = [doc] ∧
      (Segment.ofAnalyzed (batch.analyzed config)).storedFields? doc =
        some ((document.withIdentity id).fields.filter (·.options.stored)) := by
  obtain ⟨held, accepts⟩ := accepted?_eq_some.mp accepted
  cases done : config.outcome id document with
  | error error =>
    rw [Config.accepts, done] at accepts
    cases accepts
  | ok analyzed =>
    obtain ⟨-, sameId, ofDocument⟩ := analyzed_of_outcome (batch.keyed id document held) done
    obtain ⟨doc, found, stored⟩ :=
      Segment.exists_doc_ofAnalyzed (mem_analyzed.mpr ⟨id, document, accepted, done⟩)
    rw [sameId] at found
    refine ⟨doc, (sound_segment valid).toList_docNumbers found, ?_⟩
    rw [stored, AnalyzedDocument.storedFields, ofDocument]

/-- Any other external id has none. -/
theorem docNumbers_of_not_accepted (absent : batch.accepted? config id = none) :
    (Segment.ofAnalyzed (batch.analyzed config)).docNumbers [id] = ∅ := by
  refine (sound_segment valid).finds.docNumbers_eq_empty fun key member doc found => ?_
  rw [List.mem_singleton.mp member] at found
  obtain ⟨analyzed, isAnalyzed, same⟩ := Segment.exists_of_externalId?_ofAnalyzed found
  obtain ⟨document, accepted, -⟩ := exists_accepted_of_mem_analyzed isAnalyzed
  rw [← same, accepted] at absent
  cases absent

end Segment

end Batch

theorem Segment.build_eq_ok {documents : List AnalyzedDocument} {segment : Segment} :
    build documents = .ok segment ↔
      documents.length ≤ capacity ∧ segment = ofAnalyzed documents := by
  unfold build
  split
  · next fits => simp [fits, eq_comm]
  · next exceeds => simp [exceeds]

theorem WorkerPool.map_work_jobsFrom (number : Nat) (works : List Work) :
    (jobsFrom number works).map (·.work) = works := by
  refine List.ext_getElem? fun place => ?_
  unfold jobsFrom
  rw [List.getElem?_map, List.getElem?_mapIdx, Option.map_map]
  exact Option.map_id'

namespace Engine

/-- The answers that an engine gets for the documents of a batch. -/
def answers (engine : Engine) (batch : Batch) : List Answer :=
  (WorkerPool.jobsFrom engine.pool.issued (engine.works batch)).map Job.answer

/-- What a batch introduces, unless it is refused. -/
def proposal (engine : Engine) (batch : Batch) : Introduction :=
  engine.introductionOf batch (engine.answers batch) (.ofAnalyzed (batch.analyzed engine.config))

/-- What a batch introduces, with the documents to hide looked for in the given root, if it is not
refused before that. -/
def proposal? (engine : Engine) (root : Snapshot) (batch : Batch) : Option Introduction :=
  match batch.validate with
  | .error _ => none
  | .ok () =>
    match engine.pool.analyzeAll (engine.works batch) with
    | .error _ => none
    | .ok answers =>
      if answers.filterMap Answer.failure? ≠ [] ∧ engine.config.policy = .reject then none
      else match Segment.build (answers.filterMap Answer.analyzed?) with
        | .error _ => none
        | .ok segment => some ({ engine with root }.introductionOf batch answers segment)

variable {engine : Engine} {batch : Batch}

/-! ### The answers -/

/-- Each document that is put has one answer, under its external id. -/
theorem answers_eq : (engine.answers batch).map (fun answer => (answer.id, answer.outcome)) =
    batch.putDocuments.map fun entry => (entry.1, engine.config.outcome entry.1 entry.2) := by
  have ofWork : (engine.answers batch).map (fun answer => (answer.id, answer.outcome)) =
      ((WorkerPool.jobsFrom engine.pool.issued (engine.works batch)).map (·.work)).map
        fun work => (work.id, work.outcome) := by
    unfold answers
    rw [List.map_map, List.map_map]
    rfl
  rw [ofWork, WorkerPool.map_work_jobsFrom]
  unfold works
  rw [List.map_map]
  refine List.map_congr_left fun entry member => Prod.ext ?_ rfl
  have keyed := batch.keyed _ _ (Batch.mem_putDocuments.mp member)
  show entry.2.id.getD "" = entry.1
  rw [keyed, Option.getD_some]

theorem analyzed_answers : (engine.answers batch).filterMap Answer.analyzed? =
    batch.analyzed engine.config := by
  have ofPairs : (engine.answers batch).filterMap Answer.analyzed? =
      ((engine.answers batch).map fun answer => (answer.id, answer.outcome)).filterMap
        fun pair => pair.2.toOption := by
    rw [List.filterMap_map]
    rfl
  rw [ofPairs, answers_eq, List.filterMap_map]
  rfl

theorem failures_answers : (engine.answers batch).filterMap Answer.failure? =
    batch.failures engine.config := by
  have ofPairs : (engine.answers batch).filterMap Answer.failure? =
      ((engine.answers batch).map fun answer => (answer.id, answer.outcome)).filterMap
        fun pair => match pair.2 with
          | .ok _ => none
          | .error error => some ⟨pair.1, error.message⟩ := by
    rw [List.filterMap_map]
    rfl
  rw [ofPairs, answers_eq, List.filterMap_map]
  rfl

theorem mem_remaining {id : String} :
    id ∈ remaining batch.touched ((engine.answers batch).filterMap Answer.failure?) ↔
      batch.Touches engine.config id := by
  rw [failures_answers]
  unfold remaining Batch.touched
  rw [List.mem_filter, Std.ExtTreeMap.mem_keys, Bool.not_eq_true', List.any_eq_false]
  have noFailure : (∀ failure ∈ batch.failures engine.config, ¬(failure.id == id) = true) ↔
      ∀ document, batch.documents[id]? = some (some document) →
        engine.config.accepts id document := by
    have negated := not_congr (@Batch.exists_failure_iff batch engine.config id)
    simpa only [not_exists, not_and, Bool.not_eq_false, beq_iff_eq] using negated
  rw [noFailure]
  constructor
  · rintro ⟨member, accepts⟩
    refine ⟨batch.documents[id], Std.ExtTreeMap.getElem?_eq_some_getElem member,
      fun document same => accepts document ?_⟩
    rw [Std.ExtTreeMap.getElem?_eq_some_getElem member, same]
  · rintro ⟨edit, held, accepts⟩
    refine ⟨?_, fun document other => accepts document ?_⟩
    · rw [Std.ExtTreeMap.mem_iff_isSome_getElem?, held]
      rfl
    · exact Option.some.inj (held.symm.trans other)

/-! ### The introduction -/

/-- What a batch introduces, with no documents to hide named beforehand. -/
def contribution (engine : Engine) (batch : Batch) : Introduction :=
  (engine.proposal batch).withObsoletes ∅

theorem segment_contribution :
    (engine.contribution batch).segment = .ofAnalyzed (batch.analyzed engine.config) :=
  rfl

theorem mem_touched_contribution {id : String} :
    id ∈ (engine.contribution batch).touched ↔ batch.Touches engine.config id :=
  mem_remaining

/-- A batch that was checked introduces something proper. -/
theorem proper_contribution (valid : batch.validate = .ok ()) :
    (engine.contribution batch).Proper where
  sound := by
    rw [segment_contribution]
    exact Batch.sound_segment valid
  touches := by
    intro doc id found
    rw [segment_contribution] at found
    rw [mem_touched_contribution]
    cases accepted : batch.accepted? engine.config id with
    | some document => exact Batch.touches_of_accepted? accepted
    | none =>
      have member := (Segment.mem_docNumbers (Batch.sound_segment valid).finds).mpr
        ⟨id, List.mem_singleton_self id, found⟩
      rw [Batch.docNumbers_of_not_accepted valid accepted] at member
      exact absurd member Std.ExtTreeSet.not_mem_empty

/-- The segment has one place for each document that is accepted. -/
theorem length_docNumbers_contribution (valid : batch.validate = .ok ()) (id : String) :
    ((engine.contribution batch).segment.docNumbers [id]).toList.length =
      if (batch.accepted? engine.config id).isSome then 1 else 0 := by
  rw [segment_contribution]
  cases accepted : batch.accepted? engine.config id with
  | some document =>
    obtain ⟨doc, single, -⟩ := Batch.docNumbers_of_accepted valid accepted
    rw [single]
    rfl
  | none =>
    rw [Batch.docNumbers_of_not_accepted valid accepted]
    rfl

/-- The segment keeps the fields of each document that is accepted. -/
theorem documentOf?_contribution (valid : batch.validate = .ok ()) (id : String) :
    (engine.contribution batch).segment.documentOf? id =
      (batch.accepted? engine.config id).map fun document =>
        (document.withIdentity id).fields.filter (·.options.stored) := by
  unfold Segment.documentOf?
  rw [segment_contribution]
  cases accepted : batch.accepted? engine.config id with
  | some document =>
    obtain ⟨doc, single, stored⟩ := Batch.docNumbers_of_accepted valid accepted
    rw [single, List.head?_cons, Option.bind_some, stored, Option.map_some]
  | none =>
    rw [Batch.docNumbers_of_not_accepted valid accepted]
    rfl

/-- **What a batch proposes is known from the batch**, but for the documents to hide, which are
looked for in the root. -/
theorem proposal?_eq_some (numbered : engine.pool.Numbered) {root : Snapshot}
    {introduction : Introduction} (proposed : engine.proposal? root batch = some introduction) :
    batch.validate = .ok () ∧ introduction = (engine.contribution batch).withObsoletes
      (root.obsoletesOf (engine.contribution batch).touched) := by
  unfold proposal? at proposed
  split at proposed
  · cases proposed
  · next valid =>
    rw [WorkerPool.analyzeAll_eq numbered] at proposed
    split at proposed
    · cases proposed
    · next answers isAnswers =>
      split at isAnswers
      · cases isAnswers
      · cases isAnswers
        split at proposed
        · cases proposed
        split at proposed
        · cases proposed
        · next segment built =>
          obtain ⟨-, rfl⟩ := Segment.build_eq_ok.mp built
          have analyzed := @analyzed_answers engine batch
          refine ⟨valid, (Option.some.inj proposed).symm.trans ?_⟩
          show Engine.introductionOf _ batch (engine.answers batch)
            (.ofAnalyzed ((engine.answers batch).filterMap Answer.analyzed?)) = _
          rw [analyzed]
          rfl

end Engine

end TextIndex
