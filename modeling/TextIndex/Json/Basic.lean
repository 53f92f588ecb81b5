import TextIndex.Number.Shortest

/-!
# JSON texts

A JSON text is kept as it is written, short of blanks: a number as its digits and a string as its
units, so that what is skipped is never checked for more than its grammar.

* `Json`: the values.
* `Json.TextUnit.decode?`, `Json.TextUnit.ofString`: strings and the units they are written in.
* `Json.Literal.ofInt`, `Json.Literal.ofBinary64`: how numbers are written.
* `Json.Literal.toInt?`, `Json.Literal.toBinary64?`: how numbers are read.
-/

namespace TextIndex

namespace Json

/-- What a JSON string is written in: characters, and code units given by number. -/
inductive TextUnit
  | char (c : Char)
  | code (unit : UInt16)
deriving DecidableEq, Repr

namespace TextUnit

/-- Whether a code unit opens a pair. -/
def opensPair (unit : UInt16) : Bool :=
  0xD800 ≤ unit && unit ≤ 0xDBFF

/-- Whether a code unit closes a pair. -/
def closesPair (unit : UInt16) : Bool :=
  0xDC00 ≤ unit && unit ≤ 0xDFFF

/-- The character of a pair of code units. -/
def pairChar (high low : UInt16) : Char :=
  Char.ofNat (0x10000 + high.toNat % 0x400 * 0x400 + low.toNat % 0x400)

/-- The characters that units stand for; none if half a pair stands alone. -/
def decode? : List TextUnit → Option (List Char)
  | [] => some []
  | char c :: rest => (decode? rest).map (c :: ·)
  | code high :: code low :: rest =>
    if opensPair high then
      if closesPair low then (decode? rest).map (pairChar high low :: ·) else none
    else if closesPair high then none
    else (decode? (code low :: rest)).map (Char.ofNat high.toNat :: ·)
  | code unit :: rest =>
    if opensPair unit || closesPair unit then none
    else (decode? rest).map (Char.ofNat unit.toNat :: ·)

/-- The letter that stands for a character after a backslash. -/
def shortEscape? : Char → Option Char
  | '"' => some '"'
  | '\\' => some '\\'
  | '\x08' => some 'b'
  | '\x09' => some 't'
  | '\x0a' => some 'n'
  | '\x0c' => some 'f'
  | '\x0d' => some 'r'
  | _ => none

/-- The unit that a character is written as: a control without a letter of its own goes by
number. -/
def ofChar (c : Char) : TextUnit :=
  if c.toNat < 0x20 ∧ shortEscape? c = none then code (UInt16.ofNat c.toNat) else char c

/-- The units that a text is written in. -/
def ofString (text : String) : List TextUnit :=
  text.toList.map ofChar

end TextUnit

/-- The exponent part of a number. -/
structure Exponent where
  /-- The sign, where one is written; `true` for a minus. -/
  sign : Option Bool
  digits : List Nat
deriving DecidableEq, Repr

/-- The value of an exponent part. -/
def Exponent.value (exponent : Exponent) : Int :=
  if exponent.sign = some true then -(Number.ofDigits exponent.digits : Int)
  else Number.ofDigits exponent.digits

/-- A number as it is written. -/
structure Literal where
  negative : Bool
  whole : List Nat
  /-- The digits after the point; none means that there is no point. -/
  fraction : List Nat
  exponent : Option Exponent
deriving DecidableEq, Repr

namespace Literal

def ofInt (value : Int) : Literal where
  negative := value < 0
  whole := Number.digitsOf value.natAbs
  fraction := []
  exponent := none

/-- A finite double as it is written: its shortest decimal, with an exponent from `10 ^ 16` on and
below `10 ^ (-5)`, and otherwise with at least one digit after the point. -/
def ofBinary64 (x : Binary64) : Literal :=
  let decimal := x.shortest .toEven
  let leading := decimal.leadingExponent
  if -5 ≤ leading ∧ leading < 16 then
    let (whole, fraction) := decimal.positional
    ⟨x.negative, whole, if fraction = [] then [0] else fraction, none⟩
  else
    let (whole, fraction) := decimal.scientific
    ⟨x.negative, whole, fraction, some ⟨some (leading < 0), Number.digitsOf leading.natAbs⟩⟩

/-- The integer that a literal stands for. A point, an exponent or a negative zero makes it no
integer. -/
def toInt? (literal : Literal) : Option Int :=
  if literal.fraction = [] ∧ literal.exponent = none then
    let value := Number.ofDigits literal.whole
    if literal.negative then (if value = 0 then none else some (-(value : Int))) else some value
  else none

/-- The number of the leading digits that stay below `2 ^ 64`, after the digits of `value`, and the
digits left over. -/
def leadingWord (value : Nat) : List Nat → Nat × List Nat
  | [] => (value, [])
  | digit :: rest =>
    if value * 10 + digit < UInt64.size then leadingWord (value * 10 + digit) rest
    else (value, digit :: rest)

/-- The largest power of ten that a double can be scaled by in one step. -/
def largestPower : Int := 308

def powerOfTen (exponent : Nat) : Binary64 :=
  Binary64.ofScientific false 1 exponent

/-- A double scaled down by the largest power of ten until the exponent that is left can be
applied in one step, or nothing is left of the double. -/
def scaleDown (x : Binary64) (exponent : Int) : Binary64 :=
  if x.magnitude = 0 then x
  else if exponent < -largestPower then
    scaleDown (x.quotient (powerOfTen 308)) (exponent + largestPower)
  else x.quotient (powerOfTen (-exponent).toNat)
termination_by (-exponent).toNat
decreasing_by simp only [largestPower] at *; omega

/-- A double scaled by a power of ten; none if it becomes infinite. -/
def scale? (x : Binary64) (exponent : Int) : Option Binary64 :=
  if exponent < 0 then some (scaleDown x exponent)
  else if exponent ≤ largestPower then
    let scaled := x.product (powerOfTen exponent.toNat)
    if scaled.isFinite then some scaled else none
  else if x.magnitude = 0 then some x
  else none

/-- The double that a literal is read as. The leading digits that fit a word are rounded to a
double and scaled by the power of ten that is left, which rounds again; later digits count only
for their places. None if the number is out of range. -/
def toBinary64? (literal : Literal) : Option Binary64 :=
  let (wholeWord, wholeLeft) := leadingWord 0 literal.whole
  let (word, fractionLeft) := leadingWord wholeWord literal.fraction
  let places : Int := wholeLeft.length - (literal.fraction.length - fractionLeft.length : Nat)
  let exponent := literal.exponent.elim 0 Exponent.value
  (scale? (Binary64.ofInt word) (places + exponent)).map fun x =>
    if literal.negative then x.opposite else x

end Literal

end Json

/-- A JSON value as it is written. -/
inductive Json
  | null
  | bool (value : Bool)
  | number (literal : Json.Literal)
  | text (units : List Json.TextUnit)
  | array (elements : List Json)
  | object (members : List (List Json.TextUnit × Json))

end TextIndex
