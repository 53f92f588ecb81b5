import TextIndex.Unicode.WordBreakProperty
import TextIndex.Unicode.Pictographic
import TextIndex.Unicode.Alphanumeric
import TextIndex.Text.Bytes

/-!
# Word segments

A text falls into segments at its word boundaries. A segment is read from the left by a small
machine over the word break classes: its state is what the characters read so far allow to follow.
Marks, format characters and joiners cling to what stands before them and leave the state alone. A
mark inside a word, such as an apostrophe or a decimal point, belongs to the word only if the right
kind of character follows; until then the machine remembers where the word would have ended.

* `segments`: the segments of a text, in order.
* `flatten_segments`: the segments put together are the text.
* `words`: the segments that hold an alphanumeric character, each with its byte offset.
-/

namespace TextIndex.Text

open TextIndex.Unicode

/-- What must follow a mark inside a word for the word to go on. -/
inductive Expectation
  | anyLetter
  | hebrewLetter
  | numeric
deriving DecidableEq, Repr

/-- What the characters of a segment read so far allow to follow. -/
inductive Reading
  | letter
  | hebrewLetter
  | numeric
  | katakana
  | extendNumLet
  | blank
  | pictograph
  | oneIndicator
  | complete
  /-- A Hebrew letter and an apostrophe, which stays whether or not a letter follows. -/
  | apostrophe
  /-- A mark after the first `stop` characters of the segment, which stays only if the right
  character follows. -/
  | mark (expected : Expectation) (stop : Nat)
deriving DecidableEq, Repr

namespace Reading

/-- The reading after the first character of a segment; `none` for the line breaks, which stand
alone. -/
def first? : WordBreak → Option Reading
  | .carriageReturn | .lineFeed | .newline => none
  | .letter => some letter
  | .hebrewLetter => some hebrewLetter
  | .numeric => some numeric
  | .katakana => some katakana
  | .extendNumLet => some extendNumLet
  | .regionalIndicator => some oneIndicator
  | .blank => some blank
  | _ => some complete

/-- The reading after a letter or a digit run is continued by a character of the given class. -/
def continuing : WordBreak → Option Reading
  | .letter => some letter
  | .hebrewLetter => some hebrewLetter
  | .numeric => some numeric
  | .extendNumLet => some extendNumLet
  | _ => none

/-- The reading after one more character, the segment's character number `position`; `none` if
there is a boundary before it. `loose` tells that clinging characters stand between. -/
def next? (reading : Reading) (loose : Bool) (position : Nat) (kind : WordBreak) :
    Option Reading :=
  match reading with
  | letter =>
    match kind with
    | .midLetter | .midNumLet | .singleQuote => some (mark .anyLetter position)
    | _ => continuing kind
  | hebrewLetter =>
    match kind with
    | .doubleQuote => some (mark .hebrewLetter position)
    | .singleQuote => some apostrophe
    | .midLetter | .midNumLet => some (mark .anyLetter position)
    | _ => continuing kind
  | numeric =>
    match kind with
    | .midNum | .midNumLet | .singleQuote => some (mark .numeric position)
    | _ => continuing kind
  | katakana =>
    match kind with
    | .katakana => some katakana
    | .extendNumLet => some extendNumLet
    | _ => none
  | extendNumLet =>
    match kind with
    | .katakana => some katakana
    | _ => continuing kind
  | blank => if kind = .blank ∧ loose = false then some blank else none
  | oneIndicator => if kind = .regionalIndicator then some complete else none
  | pictograph => none
  | complete => none
  | apostrophe =>
    match kind with
    | .letter => some letter
    | .hebrewLetter => some hebrewLetter
    | _ => none
  | mark expected _ =>
    match expected, kind with
    | .anyLetter, .letter => some letter
    | .anyLetter, .hebrewLetter => some hebrewLetter
    | .hebrewLetter, .hebrewLetter => some hebrewLetter
    | .numeric, .numeric => some numeric
    | _, _ => none

/-- How many characters the segment has when it ends after `count` characters: a mark that was not
followed by what it needs falls away again. -/
def close (reading : Reading) (count : Nat) : Nat :=
  match reading with
  | mark _ stop => stop
  | _ => count

end Reading

/-- The length of the segment whose first `count` characters led to `reading` and whose text goes
on as given. `previous` is the class of the last character and `loose` tells whether clinging
characters have been read. A joiner lets any pictograph follow. -/
def extentFrom (reading : Reading) (previous : WordBreak) (loose : Bool) (count : Nat) :
    List Char → Nat
  | [] => reading.close count
  | c :: rest =>
    let kind := WordBreak.of c
    if kind.clings then extentFrom reading kind true (count + 1) rest
    else if previous = .joiner ∧ isPictographic c then
      extentFrom .pictograph kind loose (count + 1) rest
    else
      match reading.next? loose count kind with
      | some following => extentFrom following kind loose (count + 1) rest
      | none => reading.close count

/-- The number of characters after `c` in the segment that starts with `c` and goes on as given. -/
def tailExtent (c : Char) (rest : List Char) : Nat :=
  match Reading.first? (WordBreak.of c) with
  | some reading => extentFrom reading (WordBreak.of c) false 1 rest - 1
  | none =>
    match c, rest with
    | '\x0d', '\x0a' :: _ => 1
    | _, _ => 0

/-- The segments of a text between its word boundaries, in order. -/
def segments : List Char → List (List Char)
  | [] => []
  | c :: rest =>
    (c :: rest.take (tailExtent c rest)) :: segments (rest.drop (tailExtent c rest))
termination_by text => text.length
decreasing_by simp only [List.length_drop, List.length_cons]; omega

@[simp] theorem segments_nil : segments [] = [] := by rw [segments]

theorem segments_cons (c : Char) (rest : List Char) :
    segments (c :: rest) =
      (c :: rest.take (tailExtent c rest)) :: segments (rest.drop (tailExtent c rest)) := by
  rw [segments]

/-- The segments put together are the text. -/
theorem flatten_segments (text : List Char) : (segments text).flatten = text := by
  fun_induction segments text with
  | case1 => rfl
  | case2 c rest ih => simp [ih]

/-- No segment is empty. -/
theorem ne_nil_of_mem_segments {text segment : List Char} (member : segment ∈ segments text) :
    segment ≠ [] := by
  fun_induction segments text with
  | case1 => simp at member
  | case2 c rest ih =>
    rcases List.mem_cons.mp member with rfl | later
    · simp
    · exact ih later

/-- Segments with the byte offset at which each one starts, the first at `start`. -/
def withOffsets (start : Nat) : List (List Char) → List (Nat × List Char)
  | [] => []
  | segment :: later => (start, segment) :: withOffsets (start + byteLength segment) later

/-- The segments that hold an alphanumeric character, with their byte offsets. -/
def words (text : List Char) : List (Nat × List Char) :=
  (withOffsets 0 (segments text)).filter fun word => word.2.any isAlphanumeric

end TextIndex.Text
