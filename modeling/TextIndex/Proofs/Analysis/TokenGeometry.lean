import Mathlib.Data.List.Pairwise
import TextIndex.Analysis.Analyzer
import TextIndex.Proofs.Text.Spans

/-!
# Where the tokens of a text lie

A token of the standard analyzer tells the bytes of its word in the original text, whatever becomes
of the length of the word in lowercase. The ranges ascend and have no byte in common, positions
count the tokens that are kept, and a length limit takes tokens out and changes nothing else.
Without a limit no alphanumeric character is left out.

* `Token.Lowers`: a token is the lowercase of what stands in its range.
* `LaidOut`: what holds of all tokens of a text together.
* `Analyzer.laidOut_wordTokens`, `Analyzer.wordTokens_some`, `Analyzer.existsUnique_surrounds`: the
  tokens of the words of a text.
* `Analyzer.standard_tokens`: the standard analyzer.
-/

namespace TextIndex

open TextIndex.Text TextIndex.Unicode

namespace Token

/-- The range of a token lies between two places between the characters of a text, in this order,
and what stands there is the token but for its case. -/
def Lowers (token : Token) (text : String) : Prop :=
  ∃ start stop : text.Pos, start < stop ∧ start.offset.byteIdx = token.start ∧
    stop.offset.byteIdx = token.stop ∧
    token.text = String.ofList (lowercase (text.extract start stop).toList)

/-- The bytes of a token in the original text. -/
def width (token : Token) : Nat :=
  token.stop - token.start

/-- The character at a place of a text is in the range of a token. -/
def Surrounds (token : Token) {text : String} (place : text.Pos) (inside : place ≠ text.endPos) :
    Prop :=
  token.start ≤ place.offset.byteIdx ∧ (place.next inside).offset.byteIdx ≤ token.stop

/-- Tokens numbered in their order. -/
def renumbered (tokens : List Token) : List Token :=
  tokens.mapIdx fun position token => { token with position := position }

end Token

/-- Tokens are words of a text in lowercase, in the order of the text, and numbered without a
gap. -/
structure LaidOut (text : String) (tokens : List Token) : Prop where
  lowers : ∀ token ∈ tokens, token.Lowers text
  ascending : tokens.Pairwise fun first second =>
    first.start < second.start ∧ first.stop ≤ second.start
  numbered : tokens.map (·.position) = List.range tokens.length

/-- Tokens that have a byte in common are the same. -/
theorem LaidOut.eq_of_overlap {text : String} {tokens : List Token} (laid : LaidOut text tokens)
    {one other : Token} (isOne : one ∈ tokens) (isOther : other ∈ tokens)
    (before : one.start < other.stop) (after : other.start < one.stop) : one = other := by
  by_contra different
  have apart : tokens.Pairwise fun first second =>
      first.stop ≤ second.start ∨ second.stop ≤ first.start :=
    laid.ascending.imp fun order => .inl order.2
  have : Std.Symm fun first second : Token =>
      first.stop ≤ second.start ∨ second.stop ≤ first.start := ⟨fun _ _ => Or.symm⟩
  rcases apart.forall isOne isOther different with earlier | later
  · omega
  · omega

namespace Analyzer

variable {limit : Option Nat} {text : String}

/-- A token is made of a word of the text that is short enough. -/
theorem exists_of_mem_wordTokens {token : Token} (member : token ∈ wordTokens limit text) :
    ∃ word ∈ words text.toList, ∃ position, token = wordToken position word := by
  obtain ⟨position, bound, rfl⟩ := List.mem_mapIdx.mp member
  exact ⟨_, (List.mem_filter.mp (List.getElem_mem bound)).1, position, rfl⟩

theorem lowers_wordToken {word : Nat × List Char} (member : word ∈ words text.toList)
    (position : Nat) : (wordToken position word).Lowers text := by
  obtain ⟨stands, nonempty⟩ := stands_of_mem_words member
  obtain ⟨start, stop, isStart, isStop, extracted⟩ := stands.exists_extract
  refine ⟨start, stop, ?_, isStart, isStop, by rw [extracted]; rfl⟩
  rw [String.Pos.lt_iff, String.Pos.Raw.lt_iff, isStart, isStop]
  exact Nat.lt_add_of_pos_right (byteLength_pos nonempty)

/-- Tokens come in the order of the text, and none reaches into the next one. -/
theorem pairwise_wordTokens (limit : Option Nat) (text : String) :
    (wordTokens limit text).Pairwise fun first second =>
      first.start < second.start ∧ first.stop ≤ second.start := by
  have apart : ((words text.toList).filter fun word => keeps limit word.2).Pairwise
      fun first second => first.1 + byteLength first.2 ≤ second.1 :=
    (pairwise_words text.toList).filter _
  refine List.pairwise_iff_getElem.mpr fun i j iBound jBound before => ?_
  simp only [wordTokens, List.length_mapIdx] at iBound jBound
  have kept := List.getElem_mem iBound
  have nonempty := (stands_of_mem_words (List.mem_filter.mp kept).1).2
  have ends := List.pairwise_iff_getElem.mp apart i j iBound jBound before
  have long := byteLength_pos nonempty
  simp only [wordTokens, List.getElem_mapIdx, wordToken]
  omega

/-- **Tokens are laid out in the order of the text.** -/
theorem laidOut_wordTokens (limit : Option Nat) (text : String) :
    LaidOut text (wordTokens limit text) where
  lowers := fun token member => by
    obtain ⟨word, isWord, position, rfl⟩ := exists_of_mem_wordTokens member
    exact lowers_wordToken isWord position
  ascending := pairwise_wordTokens limit text
  numbered := by
    refine List.ext_getElem (by simp) fun i bound _ => ?_
    simp [wordTokens, wordToken]

/-- Without a limit all words are kept. -/
theorem wordTokens_none (text : String) :
    wordTokens none text = (words text.toList).mapIdx wordToken := by
  have kept : ((words text.toList).filter fun word => keeps none word.2) = words text.toList :=
    List.filter_eq_self.mpr fun _ _ => rfl
  unfold wordTokens
  rw [kept]

/-- Numbering makes no difference to tokens that are numbered anew. -/
theorem renumbered_eq (tokens : List Token) :
    Token.renumbered (tokens.map fun token => { token with position := 0 }) =
      Token.renumbered tokens :=
  List.ext_getElem (by simp [Token.renumbered]) fun i _ _ => by simp [Token.renumbered]

/-- **A limit takes the longer tokens out**, and those that are left are numbered anew. -/
theorem wordTokens_some (most : Nat) (text : String) :
    wordTokens (some most) text =
      Token.renumbered ((wordTokens none text).filter fun token => token.width ≤ most) := by
  have unnumbered : ((words text.toList).mapIdx wordToken).map
      (fun token => { token with position := 0 }) = (words text.toList).map (wordToken 0) :=
    List.ext_getElem (by simp) fun i _ _ => by simp [wordToken]
  have short (word : Nat × List Char) :
      decide ((wordToken 0 word).width ≤ most) = keeps (some most) word.2 := by
    simp [wordToken, Token.width, keeps]
  calc wordTokens (some most) text
      = Token.renumbered (((words text.toList).filter fun word =>
          keeps (some most) word.2).map (wordToken 0)) :=
        List.ext_getElem (by simp [wordTokens, Token.renumbered])
          fun i _ _ => by simp [wordTokens, Token.renumbered, wordToken]
    _ = Token.renumbered (((words text.toList).map (wordToken 0)).filter fun token =>
          token.width ≤ most) := by
        rw [List.filter_map]
        simp only [Function.comp_def, short]
    _ = Token.renumbered ((((words text.toList).mapIdx wordToken).filter fun token =>
          token.width ≤ most).map fun token => { token with position := 0 }) := by
        rw [← unnumbered, List.filter_map]
        rfl
    _ = Token.renumbered ((wordTokens none text).filter fun token => token.width ≤ most) := by
        rw [renumbered_eq, wordTokens_none]

/-- **Every alphanumeric character is in one token**, if there is no limit. -/
theorem existsUnique_surrounds {place : text.Pos} (inside : place ≠ text.endPos)
    (alphanumeric : isAlphanumeric (place.get inside)) :
    ∃! token, token ∈ wordTokens none text ∧ token.Surrounds place inside := by
  obtain ⟨word, member, above, below⟩ := exists_word_around (stands_get inside) alphanumeric
  obtain ⟨position, bound, isWord⟩ := List.mem_iff_getElem.mp member
  rw [← String.Pos.byteIdx_offset_next] at below
  have made : wordToken position word ∈ wordTokens none text := by
    rw [wordTokens_none]
    exact List.mem_mapIdx.mpr ⟨position, bound, by rw [isWord]⟩
  have advances : place.offset.byteIdx < (place.next inside).offset.byteIdx := by
    rw [String.Pos.byteIdx_offset_next]
    exact Nat.lt_add_of_pos_right (Char.utf8Size_pos _)
  refine ⟨wordToken position word, ⟨made, above, below⟩, ?_⟩
  rintro other ⟨isToken, otherAbove, otherBelow⟩
  refine (laidOut_wordTokens none text).eq_of_overlap isToken made ?_ ?_
  · exact Nat.lt_of_le_of_lt otherAbove (Nat.lt_of_lt_of_le advances below)
  · exact Nat.lt_of_le_of_lt above (Nat.lt_of_lt_of_le advances otherBelow)

/-- **The standard analyzer tells where the words of a text are.** Its tokens are laid out in the
order of the text; a limit takes the longer ones out; and without a limit every alphanumeric
character is in exactly one of them. -/
theorem standard_tokens (text : String) :
    (∀ limit, ∃ tokens, (standard limit).analyze text = .ok tokens ∧ LaidOut text tokens) ∧
      ∃ all, (standard none).analyze text = .ok all ∧
        (∀ most, (standard (some most)).analyze text =
          .ok (Token.renumbered (all.filter fun token => token.width ≤ most))) ∧
        ∀ (place : text.Pos) (inside : place ≠ text.endPos), isAlphanumeric (place.get inside) →
          ∃! token, token ∈ all ∧ token.Surrounds place inside := by
  refine ⟨fun limit => ⟨_, rfl, laidOut_wordTokens limit text⟩, _, rfl, fun most => ?_,
    fun place inside => existsUnique_surrounds inside⟩
  exact congrArg Except.ok (wordTokens_some most text)

/-- Three words: the lowercase of the first is longer than it is, the second goes on after a point,
and the third ends in a capital sigma. -/
def threeWords : String := "İS, 3.5 ΣΑΣ"

/-- The place before the first sigma. -/
def beforeSigma : threeWords.Pos := ⟨⟨9⟩, by decide +kernel⟩

theorem standard_tokens_threeWords :
    wordTokens none threeWords = [⟨"i̇s", 0, 0, 3⟩, ⟨"3.5", 1, 5, 8⟩, ⟨"σας", 2, 9, 15⟩] ∧
      ∃ inside : beforeSigma ≠ threeWords.endPos, isAlphanumeric (beforeSigma.get inside) ∧
        ∃! token, token ∈ wordTokens none threeWords ∧ token.Surrounds beforeSigma inside := by
  have inside : beforeSigma ≠ threeWords.endPos := by decide +kernel
  have alphanumeric : ∀ inside, isAlphanumeric (beforeSigma.get inside) := by decide +kernel
  obtain ⟨all, analyzed, -, covers⟩ := (standard_tokens threeWords).2
  obtain rfl := Except.ok.inj analyzed
  exact ⟨by decide +kernel, inside, alphanumeric inside, covers _ inside (alphanumeric inside)⟩

end Analyzer

end TextIndex
