import Mathlib
import TextIndex.Proofs.Json.Strings
import TextIndex.Proofs.Number.Digits

/-!
# Reading JSON that was written

Whatever is written is read again, up to what comes after it. A number is read on as long as it goes
on, so what comes after a value must not begin as a number goes on; in an array or an object that is
a comma or a bracket.

* `Json.Written`: the values that can be written.
* `Json.literal?_render`: numbers are read as they were written.
* `Json.Reads`, `Json.Written.reads`: values are, up to what comes after them.
* `Json.parse?_render`: a text that is a value.
-/

namespace TextIndex.Json

open TextIndex.Number

/-! ### Numbers -/

/-- The digits of a part of a number. -/
structure Literal.Run (digits : List Nat) : Prop where
  nonempty : digits ≠ []
  small : ∀ digit ∈ digits, digit < 10

/-- A number as it may be written: no zero stands before another digit. -/
structure Literal.Written (literal : Literal) : Prop where
  whole : Literal.Run literal.whole
  leading : ∀ rest, literal.whole = 0 :: rest → rest = []
  fraction : ∀ digit ∈ literal.fraction, digit < 10
  exponent : ∀ exponent, literal.exponent = some exponent → Literal.Run exponent.digits

theorem Literal.written_ofInt (value : Int) : (Literal.ofInt value).Written where
  whole := ⟨digitsOf_ne_nil _, fun _ => lt_ten_of_mem_digitsOf⟩
  leading := fun _ => digitsOf_eq_zero_cons
  fraction := nofun
  exponent := nofun

/-- What comes after a number does not go on with it. -/
def Follows (rest : List Char) : Prop :=
  ∀ c ∈ rest.head?, digit? c = none ∧ c ≠ '.' ∧ c ≠ 'e' ∧ c ≠ 'E'

theorem Follows.ends {rest : List Char} (follows : Follows rest) : Ends rest :=
  fun c first => (follows c first).1

/-- A sign is told from the digits that follow it. -/
theorem exponentSign_render {digits : List Nat} (run : Literal.Run digits) (sign : Option Bool)
    (rest : List Char) :
    exponentSign (Exponent.renderSign sign ++ (digits.map digitChar ++ rest)) =
      (sign, digits.map digitChar ++ rest) := by
  match sign with
  | some true => rfl
  | some false => rfl
  | none =>
    obtain ⟨first, later, rfl⟩ := List.exists_cons_of_ne_nil run.nonempty
    have small := run.small first List.mem_cons_self
    have minus : digitChar first ≠ '-' := digitChar_ne small rfl
    have plus : digitChar first ≠ '+' := digitChar_ne small rfl
    show exponentSign (digitChar first :: _) = _
    unfold exponentSign
    split <;> simp_all

section Parts

variable {rest : List Char} (follows : Follows rest)

include follows

theorem exponent?_render {exponent : Option Exponent}
    (written : ∀ part, exponent = some part → Literal.Run part.digits) :
    exponent? (exponent.elim [] Exponent.render ++ rest) = some (exponent, rest) := by
  cases exponent with
  | none =>
    show exponent? rest = _
    cases rest with
    | nil => rfl
    | cons c later =>
      obtain ⟨-, -, small, large⟩ := follows c rfl
      unfold exponent?
      split <;> simp_all
  | some part =>
    obtain ⟨sign, digits⟩ := part
    have run := written _ rfl
    have signed := exponentSign_render run sign rest
    show exponent? ('e' :: (Exponent.renderSign sign ++ digits.map digitChar ++ rest)) = _
    unfold exponent?
    rw [List.append_assoc]
    simp only [signed, digitRun_append run.small follows.ends, run.nonempty, if_false]

theorem follows_fraction {exponent : Option Exponent} :
    Ends (exponent.elim [] Exponent.render ++ rest) ∧
      (exponent.elim [] Exponent.render ++ rest).head? ≠ some '.' := by
  cases exponent with
  | none => exact ⟨follows.ends, fun first => (follows _ first).2.1 rfl⟩
  | some part => exact ⟨fun c first => by cases first; rfl, by simp [Exponent.render]⟩

end Parts

theorem fraction?_render {fraction : List Nat} (small : ∀ digit ∈ fraction, digit < 10)
    {rest : List Char} (ends : Ends rest) (noPoint : rest.head? ≠ some '.') :
    fraction? ((if fraction = [] then [] else '.' :: fraction.map digitChar) ++ rest) =
      some (fraction, rest) := by
  by_cases noFraction : fraction = []
  · rw [noFraction, if_pos rfl, List.nil_append]
    unfold fraction?
    split <;> simp_all
  · rw [if_neg noFraction, List.cons_append]
    unfold fraction?
    simp only [digitRun_append small ends, noFraction, if_false]

theorem ends_fraction {fraction : List Nat} {rest : List Char} (ends : Ends rest) :
    Ends ((if fraction = [] then [] else '.' :: fraction.map digitChar) ++ rest) := by
  by_cases noFraction : fraction = []
  · rwa [if_pos noFraction]
  · rw [if_neg noFraction]
    intro c first
    cases first
    rfl

theorem unsigned?_render {literal : Literal} (written : literal.Written) {rest : List Char}
    (follows : Follows rest) : unsigned? literal.negative (literal.whole.map digitChar ++
      ((if literal.fraction = [] then [] else '.' :: literal.fraction.map digitChar) ++
        (literal.exponent.elim [] Exponent.render ++ rest))) = some (literal, rest) := by
  obtain ⟨ends, noPoint⟩ := @follows_fraction rest follows literal.exponent
  have run := digitRun_append written.whole.small
    (@ends_fraction literal.fraction _ ends)
  unfold unsigned?
  rw [run]
  split
  · next empty => exact absurd (Prod.mk.inj empty).1 written.whole.nonempty
  · next first later leading =>
    exact absurd (written.leading _ (Prod.mk.inj leading).1) (List.cons_ne_nil _ _)
  · next whole after _ _ same =>
    obtain ⟨rfl, rfl⟩ := Prod.mk.inj same
    simp only [fraction?_render written.fraction ends noPoint,
      exponent?_render follows written.exponent]

/-- What a number begins with. -/
theorem Literal.Written.head_render {literal : Literal} (written : literal.Written) :
    ∃ first later, literal.render = first :: later ∧
      (first = '-' ∨ ∃ digit < 10, first = digitChar digit) := by
  obtain ⟨digit, others, whole⟩ := List.exists_cons_of_ne_nil written.whole.nonempty
  have small : digit < 10 := written.whole.small digit (whole ▸ List.mem_cons_self)
  unfold Literal.render
  rw [whole]
  cases literal.negative with
  | true => exact ⟨_, _, rfl, .inl rfl⟩
  | false => exact ⟨_, _, rfl, .inr ⟨digit, small, rfl⟩⟩

/-- **Numbers are read as they were written.** -/
theorem literal?_render {literal : Literal} (written : literal.Written) {rest : List Char}
    (follows : Follows rest) : literal? (literal.render ++ rest) = some (literal, rest) := by
  have read := unsigned?_render written follows
  obtain ⟨digit, others, whole⟩ := List.exists_cons_of_ne_nil written.whole.nonempty
  have small : digit < 10 := written.whole.small digit (whole ▸ List.mem_cons_self)
  unfold Literal.render
  simp only [List.append_assoc]
  cases negative : literal.negative with
  | true =>
    rw [negative] at read
    exact read
  | false =>
    rw [negative] at read
    rw [if_neg Bool.false_ne_true, List.nil_append]
    unfold literal?
    split
    · next minus =>
      rw [whole] at minus
      exact absurd (List.cons.inj minus).1 (digitChar_ne small rfl)
    · exact read

/-! ### Values -/

/-- The values that can be written. -/
inductive Written : Json → Prop
  | null : Written null
  | bool (value : Bool) : Written (bool value)
  | number {literal : Literal} (written : literal.Written) : Written (number literal)
  | text {units : List TextUnit} (written : ∀ unit ∈ units, unit.Written) : Written (text units)
  | array {elements : List Json} (written : ∀ element ∈ elements, Written element) :
      Written (array elements)
  | object {members : List (List TextUnit × Json)}
      (keys : ∀ member ∈ members, ∀ unit ∈ member.1, unit.Written)
      (written : ∀ member ∈ members, Written member.2) : Written (object members)

theorem skipBlanks_cons {c : Char} (visible : isBlank c = false) (rest : List Char) :
    skipBlanks (c :: rest) = c :: rest := by
  unfold skipBlanks
  rw [List.dropWhile_cons_of_neg (by simp [visible])]

/-- No value begins with a blank or a closing bracket. -/
theorem Written.head_chars {json : Json} (written : json.Written) :
    ∃ first later, json.chars = first :: later ∧ isBlank first = false ∧ first ≠ ']' := by
  cases written with
  | null => exact ⟨_, _, rfl, rfl, by decide⟩
  | bool value => cases value <;> exact ⟨_, _, rfl, rfl, by decide⟩
  | number written =>
    obtain ⟨first, later, render, starts⟩ := written.head_render
    refine ⟨first, later, render, ?_⟩
    rcases starts with rfl | ⟨digit, small, rfl⟩
    · decide
    · clear render
      revert digit
      decide
  | text written => exact ⟨_, _, rfl, rfl, by decide⟩
  | array written => exact ⟨_, _, rfl, rfl, by decide⟩
  | object keys written => exact ⟨_, _, rfl, rfl, by decide⟩

theorem Written.length_chars_pos {json : Json} (written : json.Written) :
    0 < json.chars.length := by
  obtain ⟨first, later, chars, -⟩ := written.head_chars
  rw [chars]
  exact Nat.zero_lt_succ _

theorem value?_number {literal : Literal} (written : literal.Written) {rest : List Char}
    (follows : Follows rest) (fuel : Nat) :
    value? (fuel + 1) (literal.render ++ rest) = some (.number literal, rest) := by
  have read := literal?_render written follows
  obtain ⟨first, later, render, starts⟩ := written.head_render
  rw [render, List.cons_append] at read ⊢
  have falls : value? (fuel + 1) (first :: (later ++ rest)) =
      (literal? (first :: (later ++ rest))).map fun read => (.number read.1, read.2) := by
    rcases starts with rfl | ⟨digit, small, rfl⟩
    · rfl
    · interval_cases digit <;> rfl
  rw [falls, read]
  rfl

theorem follows_comma (rest : List Char) : Follows (',' :: rest) := by
  intro c first
  cases first
  decide

theorem follows_bracket (rest : List Char) : Follows (']' :: rest) := by
  intro c first
  cases first
  decide

theorem follows_brace (rest : List Char) : Follows ('\x7d' :: rest) := by
  intro c first
  cases first
  decide

/-- A value is read as it was written, with enough fuel for what is nested in it. -/
def Reads (json : Json) : Prop :=
  ∀ rest fuel, Follows rest → 2 * json.chars.length ≤ fuel →
    value? fuel (json.chars ++ rest) = some (json, rest)

theorem elements?_chars {elements : List Json} (nonempty : elements ≠ [])
    (reads : ∀ element ∈ elements, Reads element) (rest : List Char) {fuel : Nat}
    (enough : 2 * (elementChars elements).length + 1 ≤ fuel) :
    elements? fuel (elementChars elements ++ ']' :: rest) = .some (elements, rest) := by
  induction elements generalizing fuel with
  | nil => exact absurd rfl nonempty
  | cons first later ih =>
    rw [List.forall_mem_cons] at reads
    obtain ⟨fuel, rfl⟩ := Nat.exists_eq_succ_of_ne_zero (show fuel ≠ 0 by omega)
    cases later with
    | nil =>
      unfold elementChars at enough ⊢
      unfold elements?
      rw [reads.1 _ fuel (follows_bracket rest) (by omega)]
      rfl
    | cons next more =>
      unfold elementChars at enough ⊢
      rw [List.length_append, List.length_cons] at enough
      have others := ih (List.cons_ne_nil _ _) reads.2 (show _ ≤ fuel by omega)
      unfold elements?
      rw [List.append_assoc, List.cons_append, reads.1 _ fuel (follows_comma _) (by omega)]
      show (elements? fuel (elementChars (next :: more) ++ ']' :: rest)).map _ = _
      rw [others]
      rfl

/-- A member is read, and what comes after it decides whether there are more. -/
theorem members?_member {key : List TextUnit} (written : ∀ unit ∈ key, unit.Written) {value : Json}
    (reads : Reads value) {fuel : Nat} (enough : 2 * value.chars.length ≤ fuel)
    (rest : List Char) :
    members? (fuel + 1) (renderText key ++ ':' :: (value.chars ++ ',' :: rest)) =
        ((members? fuel rest).map fun found => ((key, value) :: found.1, found.2)) ∧
      members? (fuel + 1) (renderText key ++ ':' :: (value.chars ++ '\x7d' :: rest)) =
        some ([(key, value)], rest) := by
  have text (after : List Char) : renderText key ++ ':' :: (value.chars ++ after) =
      '"' :: (key.flatMap TextUnit.render ++ '"' :: (':' :: (value.chars ++ after))) := by
    unfold renderText
    simp
  have colon := skipBlanks_cons (show isBlank ':' = false from rfl)
  constructor
  · rw [text, members?, skipBlanks_cons rfl]
    simp only [units?_render written, colon, reads _ fuel (follows_comma rest) enough]
    rfl
  · rw [text, members?, skipBlanks_cons rfl]
    simp only [units?_render written, colon, reads _ fuel (follows_brace rest) enough]
    rfl

theorem members?_chars {members : List (List TextUnit × Json)} (nonempty : members ≠ [])
    (keys : ∀ member ∈ members, ∀ unit ∈ member.1, unit.Written)
    (reads : ∀ member ∈ members, Reads member.2) (rest : List Char) {fuel : Nat}
    (enough : 2 * (memberChars members).length + 1 ≤ fuel) :
    members? fuel (memberChars members ++ '\x7d' :: rest) = .some (members, rest) := by
  induction members generalizing fuel with
  | nil => exact absurd rfl nonempty
  | cons first later ih =>
    obtain ⟨key, value⟩ := first
    simp only [List.forall_mem_cons] at keys reads
    obtain ⟨fuel, rfl⟩ := Nat.exists_eq_succ_of_ne_zero (show fuel ≠ 0 by omega)
    cases later with
    | nil =>
      unfold memberChars at enough ⊢
      rw [List.length_append, List.length_cons] at enough
      rw [List.append_assoc, List.cons_append]
      exact (members?_member keys.1 reads.1 (by omega) rest).2
    | cons next more =>
      unfold memberChars at enough ⊢
      simp only [List.length_append, List.length_cons] at enough
      have others := ih (List.cons_ne_nil _ _) keys.2 reads.2 (show _ ≤ fuel by omega)
      rw [List.append_assoc, List.cons_append, List.append_assoc, List.cons_append,
        (members?_member keys.1 reads.1 (by omega) _).1, others]
      rfl

/-- The elements of an array that is not empty do not begin with its closing bracket. -/
theorem value?_array {elements : List Json} (nonempty : elements ≠ [])
    (written : ∀ element ∈ elements, element.Written) (fuel : Nat) (rest : List Char) :
    value? (fuel + 1) ('[' :: (elementChars elements ++ rest)) =
      (elements? fuel (elementChars elements ++ rest)).map
        fun (elements, rest) => (.array elements, rest) := by
  obtain ⟨element, later, rfl⟩ := List.exists_cons_of_ne_nil nonempty
  obtain ⟨first, others, chars, visible, open_⟩ :=
    (written element List.mem_cons_self).head_chars
  obtain ⟨after, begins⟩ : ∃ after, elementChars (element :: later) ++ rest = first :: after := by
    cases later with
    | nil => exact ⟨others ++ rest, by unfold elementChars; rw [chars]; rfl⟩
    | cons next more =>
      exact ⟨_, by unfold elementChars; rw [chars]; rfl⟩
  rw [begins]
  have opening : isBlank '[' = false := by decide
  simp only [value?, skipBlanks_cons opening, skipBlanks_cons visible]
  split
  · next bracket => exact absurd (List.cons.inj bracket).1 open_
  · rfl

theorem value?_object {members : List (List TextUnit × Json)} (nonempty : members ≠ []) (fuel : Nat)
    (rest : List Char) : value? (fuel + 1) ('\x7b' :: (memberChars members ++ rest)) =
      (members? fuel (memberChars members ++ rest)).map
        fun (members, rest) => (.object members, rest) := by
  obtain ⟨⟨key, value⟩, later, rfl⟩ := List.exists_cons_of_ne_nil nonempty
  obtain ⟨after, begins⟩ : ∃ after,
      memberChars ((key, value) :: later) ++ rest = '"' :: after := by
    cases later <;> exact ⟨_, by unfold memberChars renderText; rfl⟩
  rw [begins]
  rfl

/-- Every value takes some fuel. -/
theorem Written.reads_of_succ {json : Json} (written : json.Written)
    (read : ∀ rest fuel, Follows rest → 2 * json.chars.length ≤ fuel + 1 →
      value? (fuel + 1) (json.chars ++ rest) = some (json, rest)) : Reads json := by
  intro rest fuel follows enough
  have long := written.length_chars_pos
  obtain ⟨less, rfl⟩ := Nat.exists_eq_succ_of_ne_zero (show fuel ≠ 0 by omega)
  exact read rest less follows enough

/-- **Values are read as they were written**, up to what comes after them. -/
theorem Written.reads {json : Json} (written : json.Written) : Reads json := by
  induction written with
  | null => exact Written.null.reads_of_succ fun _ _ _ _ => rfl
  | bool value =>
    refine (Written.bool value).reads_of_succ fun _ _ _ _ => ?_
    cases value <;> rfl
  | number written =>
    exact (Written.number written).reads_of_succ fun _ fuel follows _ =>
      value?_number written follows fuel
  | @text units written =>
    refine (Written.text written).reads_of_succ fun rest fuel _ _ => ?_
    have begins : (Json.text units).chars ++ rest =
        '"' :: (units.flatMap TextUnit.render ++ '"' :: rest) := by
      simp [chars, renderText]
    rw [begins]
    show (units? _).map _ = _
    rw [units?_render written]
    rfl
  | @array elements written ih =>
    refine (Written.array written).reads_of_succ fun rest fuel _ enough => ?_
    by_cases isEmpty : elements = []
    · subst isEmpty
      rfl
    · have begins : (Json.array elements).chars ++ rest =
          '[' :: (elementChars elements ++ ']' :: rest) := by
        simp [chars]
      have long : (Json.array elements).chars.length = (elementChars elements).length + 2 := by
        simp [chars]
      rw [begins, value?_array isEmpty written, elements?_chars isEmpty ih rest (by omega)]
      rfl
  | @object members keys written ih =>
    refine (Written.object keys written).reads_of_succ fun rest fuel _ enough => ?_
    by_cases isEmpty : members = []
    · subst isEmpty
      rfl
    · have begins : (Json.object members).chars ++ rest =
          '\x7b' :: (memberChars members ++ '\x7d' :: rest) := by
        simp [chars]
      have long : (Json.object members).chars.length = (memberChars members).length + 2 := by
        simp [chars]
      rw [begins, value?_object isEmpty, members?_chars isEmpty keys ih rest (by omega)]
      rfl

/-- **A text that is a value is read as it was written.** -/
theorem parse?_render {json : Json} (written : json.Written) :
    parse? json.render = some json := by
  have read := written.reads [] (2 * json.chars.length + 2) nofun (by omega)
  rw [List.append_nil] at read
  unfold parse? render
  rw [String.toList_ofList, read]
  rfl

end TextIndex.Json
