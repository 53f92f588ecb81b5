import TextIndex.Number.Digits

/-!
# Double precision numbers

A double is its 64 bits. A finite one stands for a whole number of units `2 ^ e`; every operation
here is carried out exactly on whole numbers and rounded once, to the nearest double, a tie to the
one with an even last bit.

* `Binary64.ofRatio`: the double nearest to a quotient.
* `Binary64.ofScientific`: the double nearest to a decimal.
* `Binary64.lt`, `Binary64.le`, `Binary64.same`: comparison, in which no NaN takes part and the two
  zeros are equal.
-/

namespace TextIndex

/-- A double precision number, given by its bits. -/
structure Binary64 where
  bits : UInt64
deriving DecidableEq, Repr, Inhabited

namespace Binary64

def signBit : Nat := 1 <<< 63

/-- The lowest bit of the exponent, above those of the fraction. -/
def exponentBit : Nat := 1 <<< 52

def negative (x : Binary64) : Bool :=
  signBit ≤ x.bits.toNat

/-- The bits without the sign. -/
def magnitude (x : Binary64) : Nat :=
  x.bits.toNat % signBit

/-- The bits of the infinite magnitude. -/
def infiniteMagnitude : Nat := 2047 * exponentBit

def isNaN (x : Binary64) : Bool :=
  infiniteMagnitude < x.magnitude

/-- Whether the value is a number and not infinite. -/
def isFinite (x : Binary64) : Bool :=
  x.magnitude < infiniteMagnitude

/-- The double with the given sign and magnitude bits. -/
def ofMagnitude (negative : Bool) (magnitude : Nat) : Binary64 :=
  ⟨UInt64.ofNat (if negative then signBit + magnitude else magnitude)⟩

def infinity (negative : Bool) : Binary64 :=
  ofMagnitude negative infiniteMagnitude

def nan : Binary64 :=
  ofMagnitude false (infiniteMagnitude + exponentBit / 2)

def one : Binary64 :=
  ofMagnitude false (1023 * exponentBit)

/-- The number of units of a finite value. -/
def significand (x : Binary64) : Nat :=
  if x.magnitude < exponentBit then x.magnitude else exponentBit + x.magnitude % exponentBit

/-- The exponent of the power of two that is the unit of a finite value. -/
def unitExponent (x : Binary64) : Int :=
  if x.magnitude < exponentBit then -1074 else (x.magnitude / exponentBit : Nat) - 1075

/-- Scale a quotient by a power of two. -/
def scaleBinary (quotient : Nat × Nat) (exponent : Int) : Nat × Nat :=
  (quotient.1 <<< exponent.toNat, quotient.2 <<< (-exponent).toNat)

/-- Scale a quotient by a power of ten. -/
def scaleDecimal (quotient : Nat × Nat) (exponent : Int) : Nat × Nat :=
  (quotient.1 * Number.tenTo exponent.toNat, quotient.2 * Number.tenTo (-exponent).toNat)

/-- The size of a finite value as a quotient of whole numbers. -/
def ratio (x : Binary64) : Nat × Nat :=
  scaleBinary (x.significand, 1) x.unitExponent

/-- The whole number nearest to a quotient, a tie to the even one. -/
def nearest (numerator denominator : Nat) : Nat :=
  let whole := numerator / denominator
  match compare (2 * (numerator % denominator)) denominator with
  | .lt => whole
  | .gt => whole + 1
  | .eq => if whole % 2 = 0 then whole else whole + 1

/-- The exponent of the largest power of two that is at most a quotient of positive numbers. -/
def binaryExponent (numerator denominator : Nat) : Int :=
  let estimate : Int := numerator.log2 - denominator.log2
  let scaled := scaleBinary (numerator, denominator) (-estimate)
  if scaled.2 ≤ scaled.1 then estimate else estimate - 1

/-- The magnitude bits of the double nearest to a quotient of positive numbers. The carry of a
significand rounded up to the next power of two runs into the exponent. -/
def roundMagnitude (numerator denominator : Nat) : Nat :=
  let unit := max (binaryExponent numerator denominator - 52) (-1074)
  let scaled := scaleBinary (numerator, denominator) (-unit)
  min ((unit + 1074).toNat * exponentBit + nearest scaled.1 scaled.2) infiniteMagnitude

/-- The double nearest to a quotient, with a sign of its own. -/
def ofRatio (negative : Bool) (numerator denominator : Nat) : Binary64 :=
  if numerator = 0 then ofMagnitude negative 0
  else ofMagnitude negative (roundMagnitude numerator denominator)

def ofInt (value : Int) : Binary64 :=
  ofRatio (value < 0) value.natAbs 1

/-- The double nearest to `digits * 10 ^ exponent`. Decimals far outside the range are not worked
out. -/
def ofScientific (negative : Bool) (digits : Nat) (exponent : Int) : Binary64 :=
  if digits = 0 then ofMagnitude negative 0
  else
    let leading := exponent + (digits.log2 / 3 : Nat)
    if 400 < exponent then infinity negative
    else if leading < -400 then ofMagnitude negative 0
    else
      let scaled := scaleDecimal (digits, 1) exponent
      ofRatio negative scaled.1 scaled.2

/-- The product of two finite values. -/
def product (x y : Binary64) : Binary64 :=
  ofRatio (x.negative != y.negative) (x.ratio.1 * y.ratio.1) (x.ratio.2 * y.ratio.2)

/-- The quotient of two finite values, the second of which is not zero. -/
def quotient (x y : Binary64) : Binary64 :=
  ofRatio (x.negative != y.negative) (x.ratio.1 * y.ratio.2) (x.ratio.2 * y.ratio.1)

def opposite (x : Binary64) : Binary64 :=
  ofMagnitude (!x.negative) x.magnitude

/-- The place of a value in the order of numbers. Both zeros have place zero. -/
def place (x : Binary64) : Int :=
  if x.negative then -(x.magnitude : Int) else x.magnitude

def lt (x y : Binary64) : Bool :=
  !x.isNaN && !y.isNaN && x.place < y.place

/-- Whether one number lies below another or is equal to it. -/
def le (x y : Binary64) : Bool :=
  !x.isNaN && !y.isNaN && x.place ≤ y.place

/-- Whether two values are the same number: the zeros are, a NaN is no number. -/
def same (x y : Binary64) : Bool :=
  !x.isNaN && !y.isNaN && x.place == y.place

end Binary64

end TextIndex
