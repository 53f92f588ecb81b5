import TextIndex.Json.Parser
import TextIndex.Json.Printer

/-!
# Reading strings that were written

A string is written in units, and each unit has its own way to be written: as it stands, after a
backslash, or by number. Whatever text the units were made from, it is read again.

* `TextUnit.Written`: that a unit is one that strings are written in.
* `units?_render`: units are read as they were written.
* `decode?_ofString`: they stand for the text that they were made from.
-/

namespace TextIndex.Json

namespace TextUnit

/-- Strings are written in units that go by number and in characters, but not in controls that have
no letter. -/
def Written : TextUnit → Prop
  | char c => 0x20 ≤ c.toNat ∨ (shortEscape? c).isSome
  | code _ => True

theorem written_ofChar (c : Char) : (ofChar c).Written := by
  unfold ofChar
  split
  · trivial
  · next other =>
    rcases Nat.lt_or_ge c.toNat 0x20 with control | printed
    · exact .inr (Option.isSome_iff_ne_none.mpr fun noEscape => other ⟨control, noEscape⟩)
    · exact .inl printed

theorem written_ofString {text : String} : ∀ unit ∈ ofString text, unit.Written := by
  intro unit member
  obtain ⟨c, -, rfl⟩ := List.mem_map.mp member
  exact written_ofChar c

end TextUnit

/-! ### One unit -/

theorem hexDigit?_hexChar {digit : Nat} (small : digit < 16) :
    hexDigit? (hexChar digit) = some digit := by
  revert digit
  decide

/-- A unit that goes by number is read again. -/
theorem codeUnit?_hexChar (unit : UInt16) :
    codeUnit? (hexChar (unit.toNat / 4096)) (hexChar (unit.toNat / 256 % 16))
      (hexChar (unit.toNat / 16 % 16)) (hexChar (unit.toNat % 16)) = some unit := by
  have bounded : unit.toNat < 65536 := unit.toNat_lt
  have whole : ((unit.toNat / 4096 * 16 + unit.toNat / 256 % 16) * 16 + unit.toNat / 16 % 16) * 16 +
      unit.toNat % 16 = unit.toNat := by omega
  unfold codeUnit?
  rw [hexDigit?_hexChar (by omega), hexDigit?_hexChar (by omega), hexDigit?_hexChar (by omega),
    hexDigit?_hexChar (by omega)]
  simp only [Option.bind_eq_bind, Option.bind_some, whole, UInt16.ofNat_toNat]

/-- The letters that stand for characters after a backslash. -/
theorem escaped?_of_shortEscape? {c letter : Char} (short : TextUnit.shortEscape? c = some letter) :
    letter ≠ 'u' ∧ escaped? letter = some c := by
  unfold TextUnit.shortEscape? at short
  split at short <;> first | cases short; decide | cases short

/-- A character that needs no backslash is read as it stands. -/
theorem units?_char {c : Char} (printed : 0x20 ≤ c.toNat) (plain : TextUnit.shortEscape? c = none)
    (rest : List Char) :
    units? (c :: rest) = (units? rest).map fun read => (.char c :: read.1, read.2) := by
  have quote : c ≠ '"' := by
    rintro rfl
    cases plain
  have backslash : c ≠ '\\' := by
    rintro rfl
    cases plain
  have isText : ¬(c.toNat < 0x20 ∨ c = '\\') := by
    rintro (control | same)
    · omega
    · exact backslash same
  rw [units?.eq_5 c rest quote (fun _ _ _ _ _ same _ => backslash same)
    (fun _ _ same _ => backslash same), if_neg isText]
  cases units? rest <;> rfl

/-- A character is read from the letter after a backslash. -/
theorem units?_letter {c letter : Char} (short : TextUnit.shortEscape? c = some letter)
    (rest : List Char) : units? ('\\' :: letter :: rest) =
      (units? rest).map fun read => (.char c :: read.1, read.2) := by
  obtain ⟨notNumber, escapes⟩ := escaped?_of_shortEscape? short
  rw [units?.eq_4 letter rest fun _ _ _ _ _ same _ => notNumber same, escapes]
  cases units? rest <;> rfl

/-- A unit is read as it was written. -/
theorem units?_render_append {unit : TextUnit} (written : unit.Written) (rest : List Char) :
    units? (unit.render ++ rest) = (units? rest).map fun read => (unit :: read.1, read.2) := by
  cases unit with
  | char c =>
    cases short : TextUnit.shortEscape? c with
    | some letter =>
      simp only [TextUnit.render, short]
      exact units?_letter short rest
    | none =>
      simp only [TextUnit.render, short]
      exact units?_char (written.resolve_right (by simp [short])) short rest
  | code unit =>
    show units? ('\\' :: 'u' :: _ :: _ :: _ :: _ :: rest) = _
    rw [units?, codeUnit?_hexChar]
    cases units? rest <;> rfl

/-- **Units are read as they were written**, up to the closing quotation mark. -/
theorem units?_render {units : List TextUnit} (written : ∀ unit ∈ units, unit.Written)
    (rest : List Char) :
    units? (units.flatMap TextUnit.render ++ '"' :: rest) = some (units, rest) := by
  induction units with
  | nil => rfl
  | cons first later ih =>
    rw [List.forall_mem_cons] at written
    rw [List.flatMap_cons, List.append_assoc, units?_render_append written.1, ih written.2]
    rfl

/-! ### The text -/

namespace TextUnit

/-- A unit that is no half of a pair stands for its own character. -/
theorem decode?_code {unit : UInt16} (opens : opensPair unit = false)
    (closes : closesPair unit = false) (rest : List TextUnit) :
    decode? (code unit :: rest) = (decode? rest).map (Char.ofNat unit.toNat :: ·) := by
  cases rest with
  | nil => simp [decode?, opens, closes]
  | cons next later => cases next <;> simp [decode?, opens, closes]

theorem decode?_ofChar (c : Char) (rest : List TextUnit) :
    decode? (ofChar c :: rest) = (decode? rest).map (c :: ·) := by
  unfold ofChar
  split
  · next control =>
    have small : (UInt16.ofNat c.toNat).toNat = c.toNat :=
      UInt16.toNat_ofNat_of_lt' (Nat.lt_trans control.1 (by decide))
    have opens : opensPair (UInt16.ofNat c.toNat) = false := by
      simp [opensPair, UInt16.le_iff_toNat_le, small]
      omega
    have closes : closesPair (UInt16.ofNat c.toNat) = false := by
      simp [closesPair, UInt16.le_iff_toNat_le, small]
      omega
    rw [decode?_code opens closes, small, Char.ofNat_toNat]
  · rfl

/-- **The units of a text stand for it.** -/
theorem decode?_ofString (text : String) : decode? (ofString text) = some text.toList := by
  unfold ofString
  induction text.toList with
  | nil => rfl
  | cons first later ih =>
    rw [List.map_cons, decode?_ofChar, ih]
    rfl

end TextUnit

end TextIndex.Json
