import TextIndex.Number.Binary64

/-!
# Shortest decimals

The text of a double is the decimal with the fewest digits among those that round to it, and of
these the nearest one. For one, two and more digits the two neighbours of the value on the decimal
grid of that many digits are tested exactly; the first grid with a hit wins.

* `Binary64.readsBack`: whether a decimal rounds to a value.
* `Binary64.shortest`: the decimal that is written.
* `Decimal.positional`, `Decimal.scientific`: its two layouts.
-/

namespace TextIndex

/-- The decimal number `digits * 10 ^ exponent`. -/
structure Decimal where
  digits : Nat
  exponent : Int
deriving DecidableEq, Repr

/-- Which of two equally near decimals is written. -/
inductive Tie
  | toEven
  | upward
deriving DecidableEq, Repr

namespace Decimal

/-- The size of a decimal as a quotient of whole numbers. -/
def ratio (decimal : Decimal) : Nat × Nat :=
  Binary64.scaleDecimal (decimal.digits, 1) decimal.exponent

/-- The same number without zeros at the end of its digits, looking at no more than `fuel`
of them. -/
def stripFrom (fuel : Nat) (decimal : Decimal) : Decimal :=
  match fuel with
  | 0 => decimal
  | fuel + 1 =>
    if decimal.digits % 10 = 0 ∧ decimal.digits ≠ 0 then
      stripFrom fuel ⟨decimal.digits / 10, decimal.exponent + 1⟩
    else decimal

/-- The same number without zeros at the end of its digits. -/
def strip (decimal : Decimal) : Decimal :=
  stripFrom decimal.digits.log2 decimal

def leadingExponent (decimal : Decimal) : Int :=
  decimal.exponent + ((Number.digitsOf decimal.digits).length - 1 : Nat)

/-- The digits before the point and the digits after it. -/
def positional (decimal : Decimal) : List Nat × List Nat :=
  let digits := Number.digitsOf decimal.digits
  if 0 ≤ decimal.exponent then
    (digits ++ List.replicate decimal.exponent.toNat 0, [])
  else
    let places := (-decimal.exponent).toNat
    if places < digits.length then
      (digits.take (digits.length - places), digits.drop (digits.length - places))
    else ([0], List.replicate (places - digits.length) 0 ++ digits)

/-- The leading digit and the digits after it, to be followed by the exponent of the leading
digit. -/
def scientific (decimal : Decimal) : List Nat × List Nat :=
  let digits := Number.digitsOf decimal.digits
  (digits.take 1, digits.drop 1)

end Decimal

namespace Binary64

/-- Compare two quotients of whole numbers. -/
def compareRatios (first second : Nat × Nat) : Ordering :=
  compare (first.1 * second.2) (second.1 * first.2)

/-- The lower end of the numbers that round to a positive finite value: half a unit below, and a
quarter of a unit where the units below are half as long. -/
def lowerEnd (x : Binary64) : Nat × Nat :=
  let quarters :=
    if x.magnitude % exponentBit = 0 ∧ 2 * exponentBit ≤ x.magnitude then 4 * x.significand - 1
    else 4 * x.significand - 2
  scaleBinary (quarters, 1) (x.unitExponent - 2)

/-- The upper end of the numbers that round to a positive finite value, half a unit above. -/
def upperEnd (x : Binary64) : Nat × Nat :=
  scaleBinary (4 * x.significand + 2, 1) (x.unitExponent - 2)

/-- Whether a decimal rounds to a positive finite value. The ends round to the even value. -/
def readsBack (x : Binary64) (decimal : Decimal) : Bool :=
  let atLow := compareRatios decimal.ratio x.lowerEnd
  let atHigh := compareRatios decimal.ratio x.upperEnd
  let even := x.magnitude % 2 == 0
  (atLow == .gt || (even && atLow == .eq)) && (atHigh == .lt || (even && atHigh == .eq))

/-- The exponent of the leading decimal digit of a quotient of positive numbers. -/
def decimalExponent (quotient : Nat × Nat) : Int :=
  let estimate : Int :=
    (Number.digitsOf quotient.1).length - (Number.digitsOf quotient.2).length
  let scaled := scaleDecimal quotient (-estimate)
  if scaled.2 ≤ scaled.1 then estimate else estimate - 1

/-- Of a value's two neighbours on a grid, the one that is written if only the grid's hits count:
the nearer one where both are hits. -/
def hit? (tie : Tie) (x : Binary64) (exponent : Int) : Option Decimal :=
  let scaled := scaleDecimal x.ratio (-exponent)
  let below : Decimal := ⟨scaled.1 / scaled.2, exponent⟩
  let above : Decimal := ⟨scaled.1 / scaled.2 + 1, exponent⟩
  match x.readsBack below && below.digits != 0, x.readsBack above with
  | true, true =>
    match compare (2 * (scaled.1 % scaled.2)) scaled.2 with
    | .lt => some below
    | .gt => some above
    | .eq => if tie = .toEven ∧ below.digits % 2 = 0 then some below else some above
  | true, false => some below
  | false, true => some above
  | false, false => none

/-- The exact decimal of a positive finite value, which many digits may be needed for. -/
def exact (x : Binary64) : Decimal :=
  if 0 ≤ x.unitExponent then ⟨x.significand <<< x.unitExponent.toNat, 0⟩
  else ⟨x.significand * Nat.pow 5 (-x.unitExponent).toNat, x.unitExponent⟩

/-- The decimal with the fewest digits that rounds to the size of a finite value. -/
def shortest (tie : Tie) (x : Binary64) : Decimal :=
  if x.magnitude = 0 then ⟨0, 0⟩
  else
    let size := ofMagnitude false x.magnitude
    let leading := decimalExponent size.ratio
    match (List.range 17).findSome? fun (more : Nat) => hit? tie size (leading - more) with
    | some decimal => decimal.strip
    | none => size.exact.strip

end Binary64

end TextIndex
