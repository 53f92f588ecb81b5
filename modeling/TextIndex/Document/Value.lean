import TextIndex.Number.FloatText
import TextIndex.Text.Utf8
import TextIndex.Time.InternetTime
import TextIndex.Error

/-!
# Field values

The value of a field is null, a truth value, a number, a text, an instant or bytes. Text comes in
two kinds: a keyword is one term as it stands, running text is for an analyzer.

* `Value.text?`, `Value.number?`, `Value.bool?`, `Value.instant?`: what a value holds.
* `Value.same`: equality in which numbers are compared as numbers.
* `Value.term?`: the one term that a value other than running text is indexed under.
-/

namespace TextIndex

open TextIndex.Text TextIndex.Time

/-- The value of a field. -/
inductive Value
  | null
  | bool (value : Bool)
  | int (value : Int64)
  | float (value : Binary64)
  /-- A text that is one term as it stands. -/
  | keyword (words : String)
  /-- A text for an analyzer. -/
  | text (words : String)
  | instant (moment : Instant)
  | bytes (content : List UInt8)
deriving DecidableEq

namespace Value

/-- The value of a 32-bit integer. -/
def ofInt32 (value : Int32) : Value :=
  int value.toInt64

def text? : Value → Option String
  | keyword words | text words => some words
  | _ => none

/-- The number; an integer is rounded to a double. -/
def number? : Value → Option Binary64
  | int value => some (Binary64.ofInt value.toInt)
  | float value => some value
  | _ => none

def bool? : Value → Option Bool
  | bool value => some value
  | _ => none

def instant? : Value → Option Instant
  | instant moment => some moment
  | _ => none

/-- The bytes of the text that a value holds. -/
def plainTextBytes (value : Value) : Nat :=
  value.text?.elim 0 String.utf8ByteSize

/-- Equality, with numbers compared as numbers: zeros are equal and a NaN is not. -/
def same : Value → Value → Bool
  | float first, float second => first.same second
  | first, second => first = second

def boolText (value : Bool) : String :=
  if value then "true" else "false"

/-- The one term that a value is indexed under; running text has none of its own. A number that is
not finite, bytes that are no text, and null cannot be indexed. -/
def term? : Value → Except AnalysisFault String
  | null => .error .nullValue
  | bool value => .ok (boolText value)
  | int value => .ok (String.ofList (Number.signedDecimal value.toInt))
  | float value => if value.isFinite then .ok value.termText else .error (.nonFinite value)
  | keyword words | text words => .ok words
  | instant moment => .ok (String.ofList (moment.stamp .digits))
  | bytes content => (Utf8.decode content).mapError .malformed

end Value

end TextIndex
