import Mathlib.Data.List.Pairwise
import TextIndex.Text.WordSegments

/-!
# Parts of a text and the bytes that they take

A word is told by the byte at which it starts, and it ends after as many bytes as its characters
have. Both are places between characters of the text, and what stands between them is the word. The
words of a text come one after the other, and no character is lost between the segments that the
words are chosen from.

* `Stands`: that a part of a text starts at a byte.
* `Stands.exists_extract`: the part is what is found between two places of the text.
* `pairwise_words`: words come one after the other.
* `stands_of_mem_words`, `exists_word_around`: words are parts of the text, and every alphanumeric
  character is in one.
-/

namespace TextIndex.Text

open TextIndex.Unicode

/-! ### Parts -/

/-- A part of a text starts at a byte. -/
def Stands (text : List Char) (offset : Nat) (part : List Char) : Prop :=
  ∃ before after, text = before ++ (part ++ after) ∧ offset = byteLength before

theorem utf8ByteSize_ofList (chars : List Char) :
    (String.ofList chars).utf8ByteSize = byteLength chars := by
  induction chars with
  | nil => rfl
  | cons first later ih =>
    rw [String.ofList_cons, String.utf8ByteSize_append, ih]
    simp

theorem byteLength_pos {chars : List Char} (nonempty : chars ≠ []) : 0 < byteLength chars := by
  obtain ⟨first, later, rfl⟩ := List.exists_cons_of_ne_nil nonempty
  rw [byteLength_cons]
  exact Nat.add_pos_left first.utf8Size_pos _

/-- A part of a text is what is found between two places between its characters. -/
theorem Stands.exists_extract {text : String} {offset : Nat} {part : List Char}
    (stands : Stands text.toList offset part) :
    ∃ start stop : text.Pos, start.offset.byteIdx = offset ∧
      stop.offset.byteIdx = offset + byteLength part ∧
      (text.extract start stop).toList = part := by
  obtain ⟨before, after, split, rfl⟩ := stands
  obtain rfl : text = String.ofList before ++ (String.ofList part ++ String.ofList after) := by
    rw [← String.ofList_append, ← String.ofList_append, ← split, String.ofList_toList]
  have startValid : (String.ofList before).rawEndPos.IsValid
      (String.ofList before ++ (String.ofList part ++ String.ofList after)) :=
    String.Pos.Raw.isValid_iff_exists_append.mpr ⟨_, _, rfl, rfl⟩
  have stopValid : (String.ofList before ++ String.ofList part).rawEndPos.IsValid
      (String.ofList before ++ (String.ofList part ++ String.ofList after)) :=
    String.Pos.Raw.isValid_iff_exists_append.mpr ⟨_, _, String.append_assoc.symm, rfl⟩
  refine ⟨⟨_, startValid⟩, ⟨_, stopValid⟩, utf8ByteSize_ofList before, ?_, ?_⟩
  · rw [String.byteIdx_rawEndPos, String.utf8ByteSize_append, utf8ByteSize_ofList,
      utf8ByteSize_ofList]
  · have found : String.extract ⟨_, startValid⟩ ⟨_, stopValid⟩ = String.ofList part := by
      rw [← String.toByteArray_inj, String.toByteArray_extract]
      simp only [String.toByteArray_append, String.byteIdx_rawEndPos, ← String.size_toByteArray]
      rw [← ByteArray.append_assoc, ByteArray.extract_append_size_left,
        ByteArray.extract_append_eq_right rfl ByteArray.size_append]
    rw [found, String.toList_ofList]

/-- A character starts at its own place. -/
theorem stands_get {text : String} {place : text.Pos} (inside : place ≠ text.endPos) :
    Stands text.toList place.offset.byteIdx [place.get inside] := by
  have split := place.splits_next_right inside
  have whole := congrArg String.toList split.eq_append
  rw [String.toList_append, String.toList_append, String.toList_singleton] at whole
  refine ⟨_, _, whole, ?_⟩
  rw [split.offset_eq_rawEndPos, String.byteIdx_rawEndPos, ← utf8ByteSize_ofList,
    String.ofList_toList]

/-! ### Segments in their places -/

theorem start_le_of_mem_withOffsets {start : Nat} {segments : List (List Char)}
    {word : Nat × List Char} (member : word ∈ withOffsets start segments) : start ≤ word.1 := by
  induction segments generalizing start with
  | nil => cases member
  | cons segment later ih =>
    rcases List.mem_cons.mp member with rfl | others
    · exact Nat.le_refl _
    · exact Nat.le_trans (Nat.le_add_right _ _) (ih others)

/-- Segments come one after the other. -/
theorem pairwise_withOffsets (start : Nat) (segments : List (List Char)) :
    (withOffsets start segments).Pairwise fun first second =>
      first.1 + byteLength first.2 ≤ second.1 := by
  induction segments generalizing start with
  | nil => exact .nil
  | cons segment later ih => exact .cons (fun _ => start_le_of_mem_withOffsets) (ih _)

/-- A segment is a part of the whole, which starts at `start`. -/
theorem exists_split_of_mem_withOffsets {start : Nat} {segments : List (List Char)}
    {word : Nat × List Char} (member : word ∈ withOffsets start segments) :
    word.2 ∈ segments ∧ ∃ before after, segments.flatten = before ++ (word.2 ++ after) ∧
      word.1 = start + byteLength before := by
  induction segments generalizing start with
  | nil => cases member
  | cons segment later ih =>
    rcases List.mem_cons.mp member with rfl | others
    · exact ⟨List.mem_cons_self, [], later.flatten, rfl, rfl⟩
    · obtain ⟨isLater, before, after, split, offset⟩ := ih others
      refine ⟨List.mem_cons_of_mem _ isLater, segment ++ before, after, ?_, ?_⟩
      · rw [List.flatten_cons, split, List.append_assoc]
      · rw [offset, byteLength_append, Nat.add_assoc]

/-- Every character of the whole is in a segment. -/
theorem exists_mem_withOffsets_around (start : Nat) {segments : List (List Char)}
    {before after : List Char} {c : Char} (split : segments.flatten = before ++ c :: after) :
    ∃ word ∈ withOffsets start segments, c ∈ word.2 ∧ word.1 ≤ start + byteLength before ∧
      start + byteLength before + c.utf8Size ≤ word.1 + byteLength word.2 := by
  induction segments generalizing start before with
  | nil => simp at split
  | cons segment later ih =>
    have passed (rest : List Char) (beyond : before = segment ++ rest)
        (found : later.flatten = rest ++ c :: after) :
        ∃ word ∈ withOffsets start (segment :: later), c ∈ word.2 ∧
          word.1 ≤ start + byteLength before ∧
          start + byteLength before + c.utf8Size ≤ word.1 + byteLength word.2 := by
      obtain ⟨word, member, isIn, above, below⟩ := ih (start + byteLength segment) found
      refine ⟨word, List.mem_cons_of_mem _ member, isIn, ?_⟩
      rw [beyond, byteLength_append]
      omega
    rw [List.flatten_cons] at split
    rcases List.append_eq_append_iff.mp split with ⟨rest, beyond, found⟩ | ⟨rest, here, found⟩
    · exact passed rest beyond found
    · cases rest with
      | nil => exact passed [] (by simpa using here.symm) (by simpa using found.symm)
      | cons first others =>
        obtain ⟨rfl, -⟩ := List.cons.inj found
        refine ⟨(start, segment), List.mem_cons_self, ?_, Nat.le_add_right _ _, ?_⟩
        · simp [here]
        · simp only [here, byteLength_append, byteLength_cons]
          omega

/-! ### Words -/

/-- A word is a part of the text that is not empty. -/
theorem stands_of_mem_words {text : List Char} {word : Nat × List Char}
    (member : word ∈ words text) : Stands text word.1 word.2 ∧ word.2 ≠ [] := by
  obtain ⟨isSegment, before, after, split, offset⟩ :=
    exists_split_of_mem_withOffsets (List.mem_filter.mp member).1
  rw [flatten_segments] at split
  exact ⟨⟨before, after, split, by rw [offset, Nat.zero_add]⟩, ne_nil_of_mem_segments isSegment⟩

/-- **Words come one after the other.** -/
theorem pairwise_words (text : List Char) : (words text).Pairwise fun first second =>
    first.1 + byteLength first.2 ≤ second.1 :=
  (pairwise_withOffsets 0 (segments text)).filter _

/-- **Every alphanumeric character is in a word.** -/
theorem exists_word_around {text : List Char} {offset : Nat} {c : Char}
    (stands : Stands text offset [c]) (alphanumeric : isAlphanumeric c) :
    ∃ word ∈ words text, word.1 ≤ offset ∧
      offset + c.utf8Size ≤ word.1 + byteLength word.2 := by
  obtain ⟨before, after, split, rfl⟩ := stands
  obtain ⟨word, member, isIn, above, below⟩ :=
    exists_mem_withOffsets_around 0 ((flatten_segments text).trans split)
  refine ⟨word, List.mem_filter.mpr ⟨member, List.any_eq_true.mpr ⟨c, isIn, alphanumeric⟩⟩, ?_⟩
  omega

end TextIndex.Text
