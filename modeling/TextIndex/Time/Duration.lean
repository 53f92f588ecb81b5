import TextIndex.Number.Digits

/-!
# Durations

A length of time of up to `2 ^ 64` seconds, exact to the nanosecond.

* `Duration.milliseconds`: the whole milliseconds.
* `Duration.text`: the length in the largest unit that leaves a whole part, with a fraction.
-/

namespace TextIndex.Time

/-- A length of time. -/
structure Duration where
  seconds : UInt64
  nanos : Nat
  nanos_lt : nanos < 1000000000
deriving DecidableEq

namespace Duration

def ofMilliseconds (milliseconds : UInt64) : Duration :=
  ⟨milliseconds / 1000, milliseconds.toNat % 1000 * 1000000, by omega⟩

def ofMicroseconds (microseconds : UInt64) : Duration :=
  ⟨microseconds / 1000000, microseconds.toNat % 1000000 * 1000, by omega⟩

/-- The whole milliseconds of a length of time. -/
def milliseconds (duration : Duration) : Nat :=
  duration.seconds.toNat * 1000 + duration.nanos / 1000000

/-- A whole number with a fraction of the given width, less the zeros at its end. -/
def decimalText (whole width fraction : Nat) : List Char :=
  let digits := (Number.padded width fraction).reverse.dropWhile (· == '0')
  Number.decimal whole ++ if digits = [] then [] else '.' :: digits.reverse

/-- The length in the largest unit that leaves a whole part. -/
def text (duration : Duration) : String :=
  String.ofList <|
    if duration.seconds ≠ 0 then
      decimalText duration.seconds.toNat 9 duration.nanos ++ ['s']
    else if 1000000 ≤ duration.nanos then
      decimalText (duration.nanos / 1000000) 6 (duration.nanos % 1000000) ++ ['m', 's']
    else if 1000 ≤ duration.nanos then
      decimalText (duration.nanos / 1000) 3 (duration.nanos % 1000) ++ ['µ', 's']
    else Number.decimal duration.nanos ++ ['n', 's']

end Duration

end TextIndex.Time
