import TextIndex.Analysis.AnalyzedDocument
import TextIndex.Proofs.KeyedFold

/-!
# Counting terms

Whatever tables are put together, a term is in the result if it was in one of them, and its count is
the sum of its counts. A count is never larger than the length that goes with it, and a summary
without terms has no length.

* `TermTable.Has`, `TermTable.countOf`, `TermTable.placesOf`: what is counted and kept.
* `TermTable.addAll_perm`: occurrences of distinct terms may come in any order.
* `TermTable.has_ofTokens`, `TermTable.countOf_ofTokens`, `TermTable.placesOf_ofTokens`: the terms
  of tokens.
* `TermTable.has_merge`, `TermTable.countOf_merge`, `TermTable.placesOf_merge`: two values of one
  field.
* `TermTable.has_mergeFrom`, `TermTable.countOf_mergeFrom`, `TermTable.placesOf_mergeFrom`: a field
  taken up into a composite one.
* `Summary.Measured`: that terms and length of a summary go together.
-/

namespace TextIndex

/-- A place as a composite field keeps it. -/
def Place.takenFrom (field : String) (place : Place) : Place :=
  { place with source := some field }

namespace TermTable

/-- A term occurs. -/
def Has (table : TermTable) (term : String) : Prop :=
  (table.get? term).isSome

/-- How often a term occurs, as a word. -/
def countOf (table : TermTable) (term : String) : UInt64 :=
  (table.get? term).elim 0 (·.count)

/-- Where a term occurs, as far as places are kept. -/
def placesOf (table : TermTable) (term : String) : List Place :=
  (table.get? term).elim [] (·.places)

/-- What was known of a term with further occurrences of it. -/
def addUse (use : TermUse) : Option TermUse → Option TermUse
  | some earlier => some (earlier.append use)
  | none => some use

theorem count_addUse (use : TermUse) (held : Option TermUse) :
    (addUse use held).elim 0 (·.count) = held.elim 0 (·.count) + use.count := by
  cases held with
  | none => exact (UInt64.zero_add _).symm
  | some earlier => rfl

theorem isSome_addUse (use : TermUse) (held : Option TermUse) : (addUse use held).isSome := by
  cases held <;> rfl

theorem get?_empty (term : String) : get? ∅ term = none :=
  Std.ExtTreeMap.getElem?_empty

theorem not_has_empty (term : String) : ¬Has ∅ term := by
  unfold Has
  rw [get?_empty]
  exact Bool.false_ne_true

theorem countOf_empty (term : String) : countOf ∅ term = 0 := by
  unfold countOf
  rw [get?_empty]
  rfl

theorem placesOf_empty (term : String) : placesOf ∅ term = [] := by
  unfold placesOf
  rw [get?_empty]
  rfl

theorem isEmpty_iff {table : TermTable} : table.isEmpty = true ↔ ∀ term, ¬table.Has term := by
  unfold isEmpty
  rw [Std.ExtTreeMap.isEmpty_iff]
  constructor
  · intro noUses term has
    unfold Has get? at has
    rw [noUses, Std.ExtTreeMap.getElem?_empty] at has
    cases has
  · intro nothing
    refine Std.ExtTreeMap.ext_getElem? fun term => ?_
    rw [Std.ExtTreeMap.getElem?_empty]
    exact Option.not_isSome_iff_eq_none.mp (nothing term)

/-! ### Occurrences that are listed -/

theorem get?_add (table : TermTable) (key : String) (use : TermUse) (term : String) :
    (table.add key use).get? term =
      if key = term then addUse use (table.get? term) else table.get? term := by
  have changed : (table.add key use).get? term = if compare key term = .eq then
      addUse use table.uses[key]? else table.uses[term]? := Std.ExtTreeMap.getElem?_alter
  rw [changed]
  by_cases same : key = term
  · subst same
    rw [if_pos Std.ReflCmp.compare_self, if_pos rfl]
    rfl
  · rw [if_neg fun equal => same (Std.LawfulEqCmp.eq_of_compare equal), if_neg same]
    rfl

/-- A term's use goes to what is known of that term. -/
theorem changesKey_addUse : ChangesKey Prod.fst
    (fun (entry : String × TermUse) held => addUse entry.2 held)
    (fun uses entry => uses.alter entry.1 (addUse entry.2)) :=
  fun _ _ _ => Std.ExtTreeMap.getElem?_alter

theorem uses_addAll (table : TermTable) (entries : List (String × TermUse)) :
    (table.addAll entries).uses =
      entries.foldl (fun uses entry => uses.alter entry.1 (addUse entry.2)) table.uses := by
  unfold addAll
  induction entries generalizing table with
  | nil => rfl
  | cons first rest ih => exact ih _

/-- Occurrences of distinct terms may be added in any order. -/
theorem addAll_perm (table : TermTable) {first second : List (String × TermUse)}
    (distinct : (first.map Prod.fst).Nodup) (reordered : first.Perm second) :
    table.addAll first = table.addAll second := by
  have same := changesKey_addUse.foldl_perm table.uses distinct reordered
  rw [← uses_addAll, ← uses_addAll] at same
  exact congrArg TermTable.mk same

/-- A term that is listed is in the table. -/
theorem has_addAll (table : TermTable) (entries : List (String × TermUse)) {term : String} :
    (table.addAll entries).Has term ↔ table.Has term ∨ ∃ entry ∈ entries, entry.1 = term := by
  unfold addAll
  induction entries generalizing table with
  | nil => simp
  | cons first rest ih =>
    have added : (table.add first.1 first.2).Has term ↔ table.Has term ∨ first.1 = term := by
      unfold Has
      rw [get?_add]
      by_cases own : first.1 = term
      · rw [if_pos own]
        exact iff_of_true (isSome_addUse _ _) (.inr own)
      · rw [if_neg own, or_iff_left own]
    simp only [List.foldl_cons, ih, added, List.mem_cons, exists_eq_or_imp, or_assoc]

/-- The count of a term grows by one with each of its occurrences that is listed. -/
theorem countOf_addAll (table : TermTable) {entries : List (String × TermUse)}
    (single : ∀ entry ∈ entries, entry.2.count = 1) (term : String) :
    (table.addAll entries).countOf term =
      table.countOf term + .ofNat (entries.countP (·.1 = term)) := by
  unfold addAll
  induction entries generalizing table with
  | nil => exact (UInt64.add_zero _).symm
  | cons first rest ih =>
    rw [List.forall_mem_cons] at single
    have added : (table.add first.1 first.2).countOf term =
        table.countOf term + if first.1 = term then 1 else 0 := by
      unfold countOf
      rw [get?_add]
      split
      · rw [count_addUse, single.1]
      · exact (UInt64.add_zero _).symm
    rw [List.foldl_cons, ih _ single.2, added, List.countP_cons, UInt64.add_assoc, UInt64.ofNat_add]
    congr 1
    rw [UInt64.add_comm]
    by_cases own : first.1 = term <;> simp [own]

/-- The places of a term that are listed come in the order of the list. -/
theorem placesOf_addAll (table : TermTable) (entries : List (String × TermUse)) (term : String) :
    (table.addAll entries).placesOf term =
      table.placesOf term ++ (entries.filter (·.1 = term)).flatMap (·.2.places) := by
  unfold addAll
  induction entries generalizing table with
  | nil => exact (List.append_nil _).symm
  | cons first rest ih =>
    have added : (table.add first.1 first.2).placesOf term =
        table.placesOf term ++ if first.1 = term then first.2.places else [] := by
      unfold placesOf
      rw [get?_add]
      split
      · cases table.get? term <;> rfl
      · exact (List.append_nil _).symm
    rw [List.foldl_cons, ih, added, List.append_assoc]
    by_cases own : first.1 = term <;> simp [own]

/-- A term is counted as often as it is a token. -/
theorem countOf_ofTokens (withPlaces : Bool) (tokens : List Token) (term : String) :
    (ofTokens withPlaces tokens).countOf term = .ofNat (tokens.countP (·.text = term)) := by
  unfold ofTokens
  rw [countOf_addAll, show countOf empty term = 0 from countOf_empty term, UInt64.zero_add,
    List.countP_map]
  · rfl
  · intro entry member
    obtain ⟨token, -, rfl⟩ := List.mem_map.mp member
    rfl

/-- The terms of tokens are their texts. -/
theorem has_ofTokens (withPlaces : Bool) (tokens : List Token) {term : String} :
    (ofTokens withPlaces tokens).Has term ↔ ∃ token ∈ tokens, token.text = term := by
  have nothing : ¬empty.Has term := not_has_empty term
  unfold ofTokens
  rw [has_addAll, or_iff_right nothing]
  simp

/-- The places of a term are those of its tokens, in order, if places are kept. -/
theorem placesOf_ofTokens (withPlaces : Bool) (tokens : List Token) (term : String) :
    (ofTokens withPlaces tokens).placesOf term =
      if withPlaces then (tokens.filter (·.text = term)).map Token.place else [] := by
  unfold ofTokens
  rw [placesOf_addAll, show placesOf empty term = [] from placesOf_empty term, List.nil_append,
    List.filter_map, List.flatMap_map]
  cases withPlaces with
  | false => exact List.flatMap_eq_nil_iff.mpr fun _ _ => rfl
  | true => exact List.map_eq_flatMap.symm

/-- The places of tokens have no mark. -/
theorem source_of_mem_placesOf_ofTokens {withPlaces : Bool} {tokens : List Token} {term : String}
    {place : Place} (member : place ∈ (ofTokens withPlaces tokens).placesOf term) :
    place.source = none := by
  rw [placesOf_ofTokens] at member
  cases withPlaces with
  | false => cases member
  | true =>
    obtain ⟨token, -, rfl⟩ := List.mem_map.mp member
    rfl

/-! ### Tables put together -/

/-- The occurrences of another table are added, each changed in the given way. -/
theorem get?_addAll_toList (table other : TermTable) (change : TermUse → TermUse)
    (term : String) :
    (table.addAll (other.toList.map fun entry => (entry.1, change entry.2))).get? term =
      (other.get? term).elim (table.get? term) fun use =>
        addUse (change use) (table.get? term) := by
  have changesKey : ChangesKey Prod.fst
      (fun (entry : String × TermUse) held => addUse (change entry.2) held)
      (fun uses entry => uses.alter entry.1 (addUse (change entry.2))) :=
    fun _ _ _ => Std.ExtTreeMap.getElem?_alter
  show (table.addAll _).uses[term]? = _
  rw [uses_addAll, List.foldl_map]
  exact changesKey.foldl_toList table.uses other.uses term

section Together

variable (table other : TermTable) (term : String)

theorem get?_merge : (table.merge other).get? term =
    (other.get? term).elim (table.get? term) fun use => addUse use (table.get? term) := by
  have same := get?_addAll_toList table other id term
  rw [show (other.toList.map fun entry => (entry.1, id entry.2)) = other.toList from
    List.map_id' _] at same
  exact same

theorem get?_mergeFrom (field : String) : (table.mergeFrom field other).get? term =
    (other.get? term).elim (table.get? term) fun use =>
      addUse (use.takenFrom field) (table.get? term) :=
  get?_addAll_toList table other (TermUse.takenFrom field) term

theorem has_merge : (table.merge other).Has term ↔ table.Has term ∨ other.Has term := by
  unfold Has
  rw [get?_merge]
  cases other.get? term with
  | none => simp
  | some use => simp [isSome_addUse]

theorem countOf_merge :
    (table.merge other).countOf term = table.countOf term + other.countOf term := by
  unfold countOf
  rw [get?_merge]
  cases other.get? term with
  | none => exact (UInt64.add_zero _).symm
  | some use => exact count_addUse use _

/-- The places in the second table come after those in the first. -/
theorem placesOf_merge :
    (table.merge other).placesOf term = table.placesOf term ++ other.placesOf term := by
  unfold placesOf
  rw [get?_merge]
  cases other.get? term with
  | none => exact (List.append_nil _).symm
  | some use => cases table.get? term <;> rfl

theorem has_mergeFrom (field : String) :
    (table.mergeFrom field other).Has term ↔ table.Has term ∨ other.Has term := by
  unfold Has
  rw [get?_mergeFrom]
  cases other.get? term with
  | none => simp
  | some use => simp [isSome_addUse]

theorem countOf_mergeFrom (field : String) :
    (table.mergeFrom field other).countOf term = table.countOf term + other.countOf term := by
  unfold countOf
  rw [get?_mergeFrom]
  cases other.get? term with
  | none => exact (UInt64.add_zero _).symm
  | some use => exact count_addUse (use.takenFrom field) _

/-- The places taken up come after those in the table, marked with the name of their field. -/
theorem placesOf_mergeFrom (field : String) : (table.mergeFrom field other).placesOf term =
    table.placesOf term ++ (other.placesOf term).map (Place.takenFrom field) := by
  unfold placesOf
  rw [get?_mergeFrom]
  cases other.get? term with
  | none => exact (List.append_nil _).symm
  | some use => cases table.get? term <;> rfl

end Together

end TermTable

/-! ### Terms and length -/

namespace Summary

/-- No term occurs more often than there are tokens, and without terms there are none. -/
structure Measured (summary : Summary) : Prop where
  counts : ∀ term, (summary.terms.countOf term).toNat ≤ summary.length
  empty : summary.terms.isEmpty = true → summary.length = 0

theorem measured_empty : empty.Measured where
  counts := fun term => by
    rw [show empty.terms.countOf term = 0 from TermTable.countOf_empty term]
    exact Nat.le_refl 0
  empty := fun _ => rfl

theorem measured_ofTokens (withPlaces : Bool) (tokens : List Token) :
    (ofTokens withPlaces tokens).Measured where
  counts := by
    intro term
    show ((TermTable.ofTokens withPlaces tokens).countOf term).toNat ≤ tokens.length
    rw [TermTable.countOf_ofTokens, UInt64.toNat_ofNat']
    exact Nat.le_trans (Nat.mod_le _ _) List.countP_le_length
  empty := by
    intro noTerms
    rw [TermTable.isEmpty_iff] at noTerms
    refine List.length_eq_zero_iff.mpr (List.eq_nil_iff_forall_not_mem.mpr fun token member => ?_)
    exact noTerms token.text ((TermTable.has_ofTokens _ _).mpr ⟨token, member, rfl⟩)

theorem Measured.mergeFrom {summary other : Summary} (measured : summary.Measured)
    (otherMeasured : other.Measured) (field : String) :
    (summary.mergeFrom field other).Measured where
  counts := by
    intro term
    have first := measured.counts term
    have second := otherMeasured.counts term
    show ((summary.terms.mergeFrom field other.terms).countOf term).toNat ≤
      summary.length + other.length
    rw [TermTable.countOf_mergeFrom, UInt64.toNat_add]
    exact Nat.le_trans (Nat.mod_le _ _) (Nat.add_le_add first second)
  empty := by
    intro noTerms
    have nothing := TermTable.isEmpty_iff.mp noTerms
    simp only [Summary.mergeFrom, TermTable.has_mergeFrom, not_or] at nothing
    show summary.length + other.length = 0
    rw [measured.empty (TermTable.isEmpty_iff.mpr fun term => (nothing term).1),
      otherMeasured.empty (TermTable.isEmpty_iff.mpr fun term => (nothing term).2)]

end Summary

end TextIndex
