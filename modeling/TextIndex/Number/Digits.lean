/-!
# Decimal digits

* `digitsOf`: the digits of a number, the first one first.
* `ofDigits`: the number that digits stand for.
* `digitRun`: the digits at the start of a text.
-/

namespace TextIndex.Number

def digitChar (digit : Nat) : Char :=
  Char.ofNat (48 + digit)

/-- The digit that a character stands for. -/
def digit? (c : Char) : Option Nat :=
  if 48 ≤ c.toNat ∧ c.toNat ≤ 57 then some (c.toNat - 48) else none

/-- The decimal digits of a number, the first one first; a zero has one digit. -/
def digitsOf (value : Nat) : List Nat :=
  if value < 10 then [value] else digitsOf (value / 10) ++ [value % 10]
decreasing_by omega

/-- The number that decimal digits stand for, the first one first. -/
def ofDigits (digits : List Nat) : Nat :=
  digits.foldl (fun value digit => value * 10 + digit) 0

/-- The power of ten with the given exponent. -/
def tenTo (exponent : Nat) : Nat :=
  Nat.pow 10 exponent

def decimal (value : Nat) : List Char :=
  (digitsOf value).map digitChar

/-- The characters of a number in decimal, with zeros in front up to the given width. -/
def padded (width value : Nat) : List Char :=
  List.replicate (width - (decimal value).length) '0' ++ decimal value

/-- The digits at the start of a text, and what comes after them. -/
def digitRun : List Char → List Nat × List Char
  | [] => ([], [])
  | c :: rest =>
    match digit? c with
    | some digit => (digit :: (digitRun rest).1, (digitRun rest).2)
    | none => ([], c :: rest)

def signedDecimal (value : Int) : List Char :=
  if value < 0 then '-' :: decimal value.natAbs else decimal value.natAbs

end TextIndex.Number
