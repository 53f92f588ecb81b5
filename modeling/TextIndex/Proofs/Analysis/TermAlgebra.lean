import Mathlib
import TextIndex.Proofs.Analysis.TermCounts
import TextIndex.Proofs.Totals

/-!
# The algebra of term tables

A table is read term by term, and so are tables put together: where both have a term, its uses are
put together, the first before the second. So putting tables together is associative, and leaves
every table as it is when there is nothing to put to it. Only the order of places tells which table
came first. Tokens that come after others make a table that is put to theirs.

* `TermTable.get?_merge_eq`: two tables put together, read term by term.
* `TermTable.merge_assoc`, `TermTable.empty_merge`, `TermTable.merge_empty`: tables form a monoid.
* `TermTable.ofTokens_append`: it is the image of lists of tokens.
* `TermTable.CountsTokens`: what the table of given tokens tells.
* `TermTable.merge_homomorphism`: all of this, and what changes when a field is taken up.
-/

namespace TextIndex

instance : Std.Associative TermUse.append where
  assoc first second third := by
    simp only [TermUse.append, UInt64.add_assoc, List.append_assoc]

namespace TermTable

/-- What is known of terms makes the table. -/
theorem ext_get? {first second : TermTable} (same : ∀ term, first.get? term = second.get? term) :
    first = second :=
  congrArg mk (Std.ExtTreeMap.ext_getElem? same)

theorem addUse_eq_merge (use : TermUse) (held : Option TermUse) :
    addUse use held = held.merge TermUse.append (some use) := by
  cases held <;> rfl

/-- Each term is used as in the first table and then as in the second one. -/
theorem get?_merge_eq (table other : TermTable) (term : String) :
    (table.merge other).get? term = (table.get? term).merge TermUse.append (other.get? term) := by
  rw [get?_merge]
  cases other.get? term with
  | none => exact Option.merge_none_right.symm
  | some use => exact addUse_eq_merge use _

theorem merge_assoc (first second third : TermTable) :
    (first.merge second).merge third = first.merge (second.merge third) := by
  refine ext_get? fun term => ?_
  simp only [get?_merge_eq]
  exact Std.Associative.assoc _ _ _

theorem empty_merge (table : TermTable) : (∅ : TermTable).merge table = table := by
  refine ext_get? fun term => ?_
  rw [get?_merge_eq, get?_empty, Option.merge_none_left]

theorem merge_empty (table : TermTable) : table.merge ∅ = table := by
  refine ext_get? fun term => ?_
  rw [get?_merge_eq, get?_empty, Option.merge_none_right]

/-! ### Tokens -/

theorem get?_addAll (table : TermTable) (entries : List (String × TermUse)) (term : String) :
    (table.addAll entries).get? term =
      ((entries.filter (·.1 = term)).map fun entry => some entry.2).foldl
        (Option.merge TermUse.append) (table.get? term) := by
  show (table.addAll entries).uses[term]? = _
  rw [uses_addAll, changesKey_addUse.foldl, List.foldl_map]
  simp only [addUse_eq_merge]
  rfl

/-- Occurrences that are listed make a table of their own, which is put to the table. -/
theorem addAll_eq_merge (table : TermTable) (entries : List (String × TermUse)) :
    table.addAll entries = table.merge (empty.addAll entries) := by
  refine ext_get? fun term => ?_
  rw [get?_merge_eq, get?_addAll, get?_addAll, show get? empty term = none from get?_empty term,
    ← @List.foldl_assoc _ (Option.merge TermUse.append), Option.merge_none_right]

/-- **The table of tokens one after the other** is that of the first ones with that of the others
put to it. -/
theorem ofTokens_append (withPlaces : Bool) (first second : List Token) :
    ofTokens withPlaces (first ++ second) =
      (ofTokens withPlaces first).merge (ofTokens withPlaces second) := by
  refine Eq.trans ?_ (addAll_eq_merge (ofTokens withPlaces first) _)
  unfold ofTokens addAll
  rw [List.map_append, List.foldl_append]

/-- A table tells of tokens: which texts they have, how often each occurs, as far as a word keeps
that, and where, in order, if places are kept. -/
structure CountsTokens (table : TermTable) (withPlaces : Bool) (tokens : List Token) : Prop where
  has : ∀ term, table.Has term ↔ ∃ token ∈ tokens, token.text = term
  counts : ∀ term, KeptInWords (table.countOf term).toNat (tokens.countP (·.text = term))
  places : ∀ term, table.placesOf term =
    if withPlaces then (tokens.filter (·.text = term)).map Token.place else []

theorem countsTokens_ofTokens (withPlaces : Bool) (tokens : List Token) :
    (ofTokens withPlaces tokens).CountsTokens withPlaces tokens where
  has := fun _ => has_ofTokens withPlaces tokens
  counts := fun term => keptInWords_toNat.mpr (countOf_ofTokens withPlaces tokens term)
  places := placesOf_ofTokens withPlaces tokens

/-! ### The laws -/

theorem countOf_merge_comm (table other : TermTable) (term : String) :
    (table.merge other).countOf term = (other.merge table).countOf term := by
  rw [countOf_merge, countOf_merge, UInt64.add_comm]

theorem has_merge_comm (table other : TermTable) (term : String) :
    (table.merge other).Has term ↔ (other.merge table).Has term := by
  rw [has_merge, has_merge, or_comm]

/-- In whatever order the terms of a table come, they are put to another one in the same way. -/
theorem addAll_of_perm (table : TermTable) {other : TermTable} {entries : List (String × TermUse)}
    (reordered : entries.Perm other.toList) (change : TermUse → TermUse) :
    (table.addAll (entries.map fun entry => (entry.1, change entry.2))) =
      table.addAll (other.toList.map fun entry => (entry.1, change entry.2)) := by
  refine addAll_perm table ?_ (reordered.map _)
  rw [List.map_map]
  exact (reordered.map Prod.fst).nodup_iff.mpr (nodup_map_fst_toList other.uses)

/-- **Tables of tokens are put together as their tokens are.** The table of tokens counts each text
as often as it occurs, and tokens one after the other make tables put together. Putting together is
associative, has the empty table as its unit, and gives the same terms and counts in either order.
Taking up a field does so too, and marks what it takes up with the name of the field, whatever mark
that had before. It makes no difference in which order the terms of a table come. -/
theorem merge_homomorphism (withPlaces : Bool) (tokens later : List Token)
    (first second third : TermTable) (field : String) :
    ofTokens withPlaces (tokens ++ later) =
        (ofTokens withPlaces tokens).merge (ofTokens withPlaces later) ∧
      (ofTokens withPlaces tokens).CountsTokens withPlaces tokens ∧
      (first.merge second).merge third = first.merge (second.merge third) ∧
      (∅ : TermTable).merge first = first ∧ first.merge ∅ = first ∧
      (∀ term, (first.merge second).countOf term = (second.merge first).countOf term ∧
        ((first.merge second).Has term ↔ (second.merge first).Has term)) ∧
      (∀ term, (first.mergeFrom field second).countOf term = (first.merge second).countOf term ∧
        ((first.mergeFrom field second).Has term ↔ (first.merge second).Has term) ∧
        (first.mergeFrom field second).placesOf term =
          first.placesOf term ++ (second.placesOf term).map (Place.takenFrom field)) ∧
      ∀ entries, entries.Perm second.toList → first.addAll entries = first.merge second ∧
        first.addAll (entries.map fun entry => (entry.1, entry.2.takenFrom field)) =
          first.mergeFrom field second := by
  refine ⟨ofTokens_append _ _ _, countsTokens_ofTokens _ _, merge_assoc _ _ _, empty_merge _,
    merge_empty _, fun term => ⟨countOf_merge_comm _ _ _, has_merge_comm _ _ _⟩, fun term => ?_,
    fun entries reordered => ⟨?_, addAll_of_perm first reordered _⟩⟩
  · refine ⟨?_, ?_, placesOf_mergeFrom _ _ _ _⟩
    · rw [countOf_mergeFrom, countOf_merge]
    · rw [has_mergeFrom, has_merge]
  · have same := addAll_of_perm first reordered id
    simp only [id, List.map_id'] at same
    exact same

/-- A title and a body have a term in common, and the terms of the title come the other way round.
-/
theorem merge_homomorphism_titleAndBody :
    let title := ofTokens true [⟨"rust", 0, 0, 4⟩, ⟨"search", 1, 5, 11⟩]
    let body := ofTokens true [⟨"rust", 0, 0, 4⟩]
    (body.mergeFrom "title" title).placesOf "rust" = [⟨none, 0, 0, 4⟩, ⟨some "title", 0, 0, 4⟩] ∧
      title.toList.reverse =
        [("search", ⟨1, [⟨none, 1, 5, 11⟩]⟩), ("rust", ⟨1, [⟨none, 0, 0, 4⟩]⟩)] ∧
      title.toList.reverse.Perm title.toList ∧
      body.addAll title.toList.reverse = body.merge title ∧
      (body.merge title).toList =
        [("rust", ⟨2, [⟨none, 0, 0, 4⟩, ⟨none, 0, 0, 4⟩]⟩),
          ("search", ⟨1, [⟨none, 1, 5, 11⟩]⟩)] := by
  intro title body
  have reordered : title.toList.reverse.Perm title.toList := List.reverse_perm _
  obtain ⟨-, -, -, -, -, -, -, anyOrder⟩ :=
    merge_homomorphism true [] [] body title ∅ "title"
  exact ⟨by cbv, by cbv, reordered, (anyOrder _ reordered).1, by cbv⟩

end TermTable

end TextIndex
