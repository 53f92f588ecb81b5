import TextIndex.Proofs.Engine.Skipping
import TextIndex.Proofs.Segment.Traversal

/-!
# In whatever order the workers finish

The answers for the documents of a batch arrive in the order in which the workers finish. Nothing
but the order of the failures that are named depends on it. The documents of a batch have distinct
external ids, so there is one order to number them in, and the segment is the same.

* `Segment.build_eq_of_perm`: the segment of reordered documents.
* `Engine.introductionOf_eq_of_perm`: what a batch introduces.
* `SameUpToOrder`: that two results differ in the order of failures only.
* `Engine.conclude_of_arrival`: what a commit comes to.
-/

namespace TextIndex

open TextIndex.Number

/-- Documents with distinct external ids make the same segment in whatever order they come. -/
theorem Segment.ofAnalyzed_eq_of_perm {first second : List AnalyzedDocument}
    (distinct : (first.map (·.id)).Nodup) (reordered : first.Perm second) :
    ofAnalyzed first = ofAnalyzed second := by
  unfold ofAnalyzed
  rw [mergeSort_key_eq_of_perm AnalyzedDocument.id distinct reordered]

/-- So there is one for them either way, or none. -/
theorem Segment.build_eq_of_perm {first second : List AnalyzedDocument}
    (distinct : (first.map (·.id)).Nodup) (reordered : first.Perm second) :
    build first = build second := by
  unfold build
  rw [ofAnalyzed_eq_of_perm distinct reordered, reordered.length_eq]

/-- Two results of a commit are the same, but for the order of the failures that they name. -/
inductive SameUpToOrder : Except IndexError Receipt → Except IndexError Receipt → Prop
  | committed {version segment : Nat} {first second : List DocumentFailure}
      (reordered : first.Perm second) :
      SameUpToOrder (.ok ⟨version, segment, first⟩) (.ok ⟨version, segment, second⟩)
  | rejected {first second : List DocumentFailure} (reordered : first.Perm second) :
      SameUpToOrder (.error (.rejected first)) (.error (.rejected second))
  | failed (error : IndexError) : SameUpToOrder (.error error) (.error error)

theorem sameUpToOrder_map (published : Except IndexError (Nat × Nat))
    {first second : List DocumentFailure} (reordered : first.Perm second) :
    SameUpToOrder (published.map fun (version, segment) => ⟨version, segment, first⟩)
      (published.map fun (version, segment) => ⟨version, segment, second⟩) := by
  cases published with
  | error error => exact .failed error
  | ok published => exact .committed reordered

namespace Engine

/-- Which external ids are left does not depend on the order of the failures. -/
theorem remaining_eq_of_perm (touched : List String) {first second : List DocumentFailure}
    (reordered : first.Perm second) : remaining touched first = remaining touched second := by
  unfold remaining
  refine List.filter_congr fun id _ => ?_
  rw [Bool.not_inj_iff, Bool.eq_iff_iff, List.any_eq_true, List.any_eq_true]
  exact exists_congr fun failure => and_congr_left fun _ => reordered.mem_iff

section Arrival

variable {engine : Engine} {batch : Batch} {first second : List Answer} {late : Bool}

theorem nodup_ids_of_arrival (arrived : first.Perm (engine.answers batch)) :
    ((first.filterMap Answer.analyzed?).map (·.id)).Nodup := by
  have reordered := (arrived.filterMap Answer.analyzed?).map AnalyzedDocument.id
  rw [analyzed_answers] at reordered
  exact reordered.nodup_iff.mpr Batch.nodup_ids_analyzed

/-- What a batch introduces with a segment does not depend on the order of the answers. -/
theorem introductionOf_eq_of_perm (reordered : first.Perm second) :
    engine.introductionOf batch first = engine.introductionOf batch second := by
  unfold introductionOf
  rw [remaining_eq_of_perm _ (reordered.filterMap Answer.failure?)]

/-- What is counted does not depend on the order of the answers. -/
theorem addAnswers_eq_of_perm (counters : BatchCounters) (reordered : first.Perm second) :
    counters.addAnswers first = counters.addAnswers second := by
  have failures := (reordered.filterMap Answer.failure?).length_eq
  have texts := total_perm ((reordered.filterMap Answer.analyzed?).map (·.ownTextBytes))
  unfold BatchCounters.addAnswers BatchCounters.addFailures BatchCounters.addTexts
  rw [failures, texts]

/-- A batch is concluded in the same way, with the failures named in another order. -/
theorem conclude_of_perm (arrived : first.Perm (engine.answers batch))
    (reordered : first.Perm second) :
    SameUpToOrder (engine.conclude batch first late).1 (engine.conclude batch second late).1 ∧
      (engine.conclude batch first late).2 = (engine.conclude batch second late).2 := by
  have failures := reordered.filterMap Answer.failure?
  have sameChoice : (first.filterMap Answer.failure? ≠ [] ∧ engine.config.policy = .reject) ↔
      (second.filterMap Answer.failure? ≠ [] ∧ engine.config.policy = .reject) := by
    rw [Ne, Ne, ← List.length_eq_zero_iff, ← List.length_eq_zero_iff, failures.length_eq]
  by_cases rejected : first.filterMap Answer.failure? ≠ [] ∧ engine.config.policy = .reject
  · rw [conclude_of_rejected rejected, conclude_of_rejected (sameChoice.mp rejected)]
    exact ⟨.rejected failures, by rw [BatchCounters.addFailures, failures.length_eq]; rfl⟩
  have kept := rejected ∘ sameChoice.mpr
  have documents := reordered.filterMap Answer.analyzed?
  have length := documents.length_eq
  by_cases fits : (first.filterMap Answer.analyzed?).length ≤ Segment.capacity
  · rw [conclude_of_fits rejected fits, conclude_of_fits kept (length ▸ fits),
      introductionOf_eq_of_perm reordered, addAnswers_eq_of_perm _ reordered,
      Segment.ofAnalyzed_eq_of_perm (nodup_ids_of_arrival arrived) documents]
    exact ⟨sameUpToOrder_map _ failures, rfl⟩
  · rw [conclude_of_tooMany rejected (Nat.lt_of_not_le fits),
      conclude_of_tooMany kept (Nat.lt_of_not_le (length ▸ fits)),
      addAnswers_eq_of_perm _ reordered, length]
    exact ⟨.failed _, rfl⟩

end Arrival

/-- **The order in which the workers finish makes no difference**, whatever state the engine is in,
but for the order in which failures are named. The documents of a batch have distinct external ids,
and the segment does not depend on how any tables are gone through either. -/
theorem conclude_of_arrival (engine : Engine) (batch : Batch) {first second : List Answer}
    (arrivedFirst : first.Perm (engine.answers batch))
    (arrivedSecond : second.Perm (engine.answers batch)) (late : Bool) :
    (batch.putDocuments.map Prod.fst).Nodup ∧
      (∀ orders others, Traversal.ofAnalyzed orders (first.filterMap Answer.analyzed?) =
        Traversal.ofAnalyzed others (second.filterMap Answer.analyzed?)) ∧
      Segment.build (first.filterMap Answer.analyzed?) =
        Segment.build (second.filterMap Answer.analyzed?) ∧
      (first.filterMap Answer.failure?).Perm (second.filterMap Answer.failure?) ∧
      (∀ segment, engine.introductionOf batch first segment =
        engine.introductionOf batch second segment) ∧
      SameUpToOrder (engine.conclude batch first late).1 (engine.conclude batch second late).1 ∧
      (engine.conclude batch first late).2 = (engine.conclude batch second late).2 := by
  have reordered := arrivedFirst.trans arrivedSecond.symm
  have documents := reordered.filterMap Answer.analyzed?
  have distinct := nodup_ids_of_arrival arrivedFirst
  refine ⟨Batch.nodup_ids_putDocuments, fun orders others => ?_,
    Segment.build_eq_of_perm distinct documents, reordered.filterMap Answer.failure?,
    fun _ => congrFun (introductionOf_eq_of_perm reordered) _,
    conclude_of_perm arrivedFirst reordered⟩
  rw [Traversal.ofAnalyzed_eq, Traversal.ofAnalyzed_eq]
  exact Segment.ofAnalyzed_eq_of_perm distinct documents

/-- Two documents with a tag can be analyzed, and one between them cannot. -/
def mostlyGood : Batch :=
  let first := (Batch.empty.put { fields := [⟨"tag", .keyword "rust", {}⟩] } "a").2
  let second := (first.put { fields := [⟨"score", .float .nan, {}⟩] } "b").2
  (second.put { fields := [⟨"tag", .keyword "go", {}⟩] } "c").2

/-- The workers finish in the opposite order, and the same segment of two documents is committed. -/
theorem conclude_of_arrival_mostlyGood :
    let answers := lenient.answers mostlyGood
    answers.map (·.id) = ["a", "b", "c"] ∧ answers.Perm answers ∧ answers.reverse.Perm answers ∧
      (answers.reverse.filterMap Answer.analyzed?).map (·.id) = ["c", "a"] ∧
      (lenient.conclude mostlyGood answers.reverse).1 = .ok ⟨1, 1,
        [⟨"b", "Analysis error: field 'score': non-finite numeric value NaN"⟩]⟩ ∧
      SameUpToOrder (lenient.conclude mostlyGood answers).1
        (lenient.conclude mostlyGood answers.reverse).1 ∧
      (lenient.conclude mostlyGood answers).2 =
        (lenient.conclude mostlyGood answers.reverse).2 := by
  intro answers
  obtain ⟨-, -, -, -, -, alike⟩ := conclude_of_arrival lenient mostlyGood (List.Perm.refl answers)
    (List.reverse_perm answers) false
  exact ⟨by decide +kernel, .refl _, List.reverse_perm answers, by decide +kernel,
    by decide +kernel, alike⟩

end Engine

end TextIndex
