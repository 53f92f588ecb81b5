import TextIndex.Proofs.Analysis.Slots
import TextIndex.Proofs.KeyedTotals

/-!
# Every token is counted once

The counts of all terms of a field add up to its length in tokens, in a plain field and in a
composite one, and over all slots of one name, as long as that length fits into a word.

* `TermTable.total_countOf`: the counts of the terms that a list names.
* `Summary.Weighed`, `Summary.Tallied`: that counts and length of a summary agree.
* `AnalyzedDocument.total_frequencyOf`: the frequencies of all terms under a name.
-/

namespace TextIndex

open TextIndex.Number

namespace TermTable

variable {table : TermTable} {terms : List String}

theorem countOf_of_not_has {term : String} (absent : ¬table.Has term) : table.countOf term = 0 := by
  unfold countOf
  rw [Option.not_isSome_iff_eq_none.mp absent]
  rfl

theorem mem_keys {term : String} : term ∈ table.uses.keys ↔ table.Has term := by
  rw [Std.ExtTreeMap.mem_keys, Std.ExtTreeMap.mem_iff_isSome_getElem?]
  rfl

/-- The occurrences of all terms, counted over any list that names each of them once. -/
theorem total_countOf (distinct : terms.Nodup) (covers : ∀ term, table.Has term → term ∈ terms) :
    total (terms.map fun term => (table.countOf term).toNat) = table.occurrences := by
  refine Eq.trans (congrArg total (List.map_congr_left fun term _ => ?_))
    (total_toList (fun _ uses => uses.count.toNat) table.uses distinct covers).symm
  unfold countOf get?
  cases table.uses[term]? <;> rfl

end TermTable

/-- Each token has the text of one term. -/
theorem total_countP_text {terms : List String} {tokens : List Token} (distinct : terms.Nodup)
    (covers : ∀ token ∈ tokens, token.text ∈ terms) :
    total (terms.map fun term => tokens.countP (·.text = term)) = tokens.length := by
  induction tokens with
  | nil => exact total_map_zero terms
  | cons first rest ih =>
    rw [List.forall_mem_cons] at covers
    simp only [List.countP_cons, decide_eq_true_eq, total_map_add, ih covers.2,
      total_map_ite distinct covers.1, List.length_cons]

/-- Words that keep a count of each term keep the total of these counts. -/
theorem TermTable.occurrences_of_counts {table : TermTable} {counts : String → Nat}
    (keeps : ∀ term, table.countOf term = .ofNat (counts term)) :
    UInt64.ofNat table.occurrences = .ofNat (total (table.uses.keys.map counts)) ∧
      table.occurrences ≤ total (table.uses.keys.map counts) := by
  rw [← total_countOf Std.ExtTreeMap.nodup_keys fun _ => mem_keys.mpr]
  refine ⟨ofNat_total_map fun term _ => keeps term, total_le_total fun term _ => ?_⟩
  rw [keeps]
  exact toNat_ofNat_le _

namespace Summary

/-- The counts of a summary's terms add up to its length, if that fits into a word. -/
def Tallied (summary : Summary) : Prop :=
  summary.length < 2 ^ 64 → summary.terms.occurrences = summary.length

/-- The counts of a summary's terms add up to its length, but for what gets lost when words turn. -/
structure Weighed (summary : Summary) : Prop where
  word : UInt64.ofNat summary.terms.occurrences = .ofNat summary.length
  le : summary.terms.occurrences ≤ summary.length

theorem Weighed.kept {summary : Summary} (weighed : summary.Weighed) :
    KeptInWords summary.terms.occurrences summary.length :=
  keptInWords_of_le weighed.word weighed.le

theorem Weighed.tallied {summary : Summary} (weighed : summary.Weighed) : summary.Tallied :=
  weighed.kept.exact

theorem weighed_ofTokens (withPlaces : Bool) (tokens : List Token) :
    (ofTokens withPlaces tokens).Weighed := by
  let table := TermTable.ofTokens withPlaces tokens
  obtain ⟨word, le⟩ := table.occurrences_of_counts (TermTable.countOf_ofTokens withPlaces tokens)
  have all : total (table.uses.keys.map fun term => tokens.countP (·.text = term)) =
      tokens.length := by
    refine total_countP_text Std.ExtTreeMap.nodup_keys fun token member => ?_
    exact TermTable.mem_keys.mpr ((TermTable.has_ofTokens _ _).mpr ⟨token, member, rfl⟩)
  rw [all] at word le
  exact ⟨word, le⟩

theorem Weighed.mergeFrom {summary other : Summary} (weighed : summary.Weighed)
    (otherWeighed : other.Weighed) (field : String) :
    (summary.mergeFrom field other).Weighed := by
  let merged := summary.terms.mergeFrom field other.terms
  have keeps (term : String) : merged.countOf term =
      .ofNat ((summary.terms.countOf term).toNat + (other.terms.countOf term).toNat) := by
    rw [TermTable.countOf_mergeFrom, UInt64.ofNat_add, UInt64.ofNat_toNat, UInt64.ofNat_toNat]
  have has (term : String) : merged.Has term ↔ summary.terms.Has term ∨ other.terms.Has term :=
    TermTable.has_mergeFrom _ _ _ _
  obtain ⟨word, le⟩ := merged.occurrences_of_counts keeps
  rw [total_map_add,
    TermTable.total_countOf Std.ExtTreeMap.nodup_keys fun term inFirst =>
      TermTable.mem_keys.mpr ((has term).mpr (.inl inFirst)),
    TermTable.total_countOf Std.ExtTreeMap.nodup_keys fun term inSecond =>
      TermTable.mem_keys.mpr ((has term).mpr (.inr inSecond))] at word le
  refine ⟨?_, Nat.le_trans le (Nat.add_le_add weighed.le otherWeighed.le)⟩
  show UInt64.ofNat merged.occurrences = .ofNat (summary.length + other.length)
  rw [word, UInt64.ofNat_add, UInt64.ofNat_add, weighed.word, otherWeighed.word]

theorem hereditary_weighed : Hereditary Weighed where
  empty := ⟨rfl, Nat.le_refl _⟩
  ofTokens := weighed_ofTokens
  mergeFrom := Weighed.mergeFrom

end Summary

/-- **The frequencies of all terms under a name add up to its tokens**, whatever list names each
term once. -/
theorem AnalyzedDocument.total_frequencyOf {analyzed : AnalyzedDocument}
    (tallied : ∀ slot ∈ analyzed.slots, slot.summary.Tallied) {field : String}
    (fits : analyzed.lengthOf field < 2 ^ 64) {terms : List String} (distinct : terms.Nodup)
    (covers : ∀ term, analyzed.Holds field term → term ∈ terms) :
    total (terms.map (analyzed.frequencyOf field)) = analyzed.lengthOf field := by
  have ofSlot : ∀ slot ∈ analyzed.slotsOf field,
      total (terms.map fun term => (slot.summary.terms.countOf term).toNat) =
        slot.summary.length := by
    intro slot member
    rw [TermTable.total_countOf distinct fun term has => covers term ⟨slot, member, has⟩]
    refine tallied slot (List.mem_filter.mp member).1 (Nat.lt_of_le_of_lt ?_ fits)
    exact le_total_of_mem (fun slot : Slot => slot.summary.length) member
  unfold lengthOf
  rw [← List.map_congr_left ofSlot, total_map_total]
  rfl

end TextIndex
