import TextIndex.Time.Instant
import TextIndex.Number.Digits
import TextIndex.Unicode.WhiteSpace

/-!
# Internet time stamps

An instant is written as date, time of day, fraction of a second and offset, such as
`2024-02-29T12:30:00.250+00:00`. A fraction has three, six or nine digits, or is left out. Years
outside four digits carry a sign. On reading, any offset is accepted, parts may be shorter than
written and blanks may stand between them.

* `Instant.stamp`: the time stamp of an instant.
* `Instant.ofStamp?`: the instant of a time stamp.
-/

namespace TextIndex.Time

open TextIndex.Number TextIndex.Unicode

/-- A year: four digits, or a sign and at least four digits. -/
def yearText (year : Int) : List Char :=
  if 0 ≤ year ∧ year ≤ 9999 then padded 4 year.toNat
  else (if year < 0 then '-' else '+') :: padded 4 year.natAbs

/-- The fraction of a second in as many groups of three digits as it needs. -/
def fractionText (nanos : Nat) : List Char :=
  if nanos = 0 then []
  else if nanos % 1000000 = 0 then '.' :: padded 3 (nanos / 1000000)
  else if nanos % 1000 = 0 then '.' :: padded 6 (nanos / 1000)
  else '.' :: padded 9 nanos

/-- How the offset of the zero meridian is written. -/
inductive ZoneStyle
  | letter
  | digits
deriving DecidableEq, Repr

/-- The offset of the zero meridian. -/
def ZoneStyle.text : ZoneStyle → List Char
  | letter => ['Z']
  | digits => ['+', '0', '0', ':', '0', '0']

/-- The time stamp of an instant. A leap second is the second after the fifty-ninth. -/
def Instant.stamp (zone : ZoneStyle) (instant : Instant) : List Char :=
  let second := instant.second % 60 + instant.nanos / nanosPerSecond
  yearText instant.date.year ++ '-' :: padded 2 instant.date.month ++
    '-' :: padded 2 instant.date.day ++
    'T' :: padded 2 (instant.second / 3600) ++ ':' :: padded 2 (instant.second / 60 % 60) ++
    ':' :: padded 2 second ++ fractionText (instant.nanos % nanosPerSecond) ++ zone.text

namespace Stamp

/-- A number of one digit up to `width` digits, after any white space. -/
def number? (width : Nat) (text : List Char) : Option (Nat × List Char) :=
  let text := dropWhiteSpace text
  let digits := (digitRun (text.take width)).1
  if digits = [] then none else some (ofDigits digits, text.drop digits.length)

/-- A year, with a sign and any number of digits or with up to four digits. -/
def year? (text : List Char) : Option (Int × List Char) :=
  let text := dropWhiteSpace text
  match text with
  | '-' :: rest =>
    match digitRun rest with
    | ([], _) => none
    | (digits, rest) => some (-(ofDigits digits : Int), rest)
  | '+' :: rest =>
    match digitRun rest with
    | ([], _) => none
    | (digits, rest) => some ((ofDigits digits : Int), rest)
  | text => (number? 4 text).map fun (year, rest) => ((year : Int), rest)

/-- A separator after any white space. -/
def separator? (mark : Char) (text : List Char) : Option (List Char) :=
  match dropWhiteSpace text with
  | c :: rest => if c = mark then some rest else none
  | [] => none

/-- The nanoseconds of a fraction of a second, if one stands here; digits beyond the ninth are
passed over. -/
def fraction? (text : List Char) : Option (Nat × List Char) :=
  match text with
  | '.' :: rest =>
    match digitRun rest with
    | ([], _) => none
    | (digits, rest) =>
      some (ofDigits (digits.take 9 ++ List.replicate (9 - digits.length) 0), rest)
  | text => some (0, text)

/-- Two digits, the value they stand for and what comes after them. -/
def twoDigits? : List Char → Option (Nat × List Char)
  | tens :: units :: rest =>
    match digit? tens, digit? units with
    | some tens, some units => some (tens * 10 + units, rest)
    | _, _ => none
  | _ => none

/-- The offset of a clock in seconds: a letter for the zero meridian, or a sign, hours and
minutes. -/
def offset? (text : List Char) : Option (Int × List Char) :=
  let signed? (sign : Int) (text : List Char) : Option (Int × List Char) := do
    let (hours, rest) ← twoDigits? text
    let (minutes, rest) ← twoDigits? (rest.dropWhile fun c => c == ':' || isWhiteSpace c)
    if minutes < 60 then some (sign * (hours * 3600 + minutes * 60 : Nat), rest) else none
  match dropWhiteSpace text with
  | 'Z' :: rest | 'z' :: rest => some (0, rest)
  | '+' :: rest => signed? 1 rest
  | '-' :: rest | '\u2212' :: rest => signed? (-1) rest
  | u :: t :: c :: rest =>
    if (u = 'U' ∨ u = 'u') ∧ (t = 'T' ∨ t = 't') ∧ (c = 'C' ∨ c = 'c') then some (0, rest) else none
  | _ => none

end Stamp

open Stamp in
/-- The instant of a time stamp, in any offset. -/
def Instant.ofStamp? (text : List Char) : Option Instant := do
  let (year, rest) ← year? text
  let rest ← separator? '-' rest
  let (month, rest) ← number? 2 rest
  let rest ← separator? '-' rest
  let (day, rest) ← number? 2 rest
  let date ← Date.of? year month day
  let rest ← match rest with
    | 't' :: rest | 'T' :: rest | ' ' :: rest => some rest
    | _ => none
  let (hour, rest) ← number? 2 rest
  let rest ← separator? ':' rest
  let (minute, rest) ← number? 2 rest
  let rest ← separator? ':' rest
  let (second, rest) ← number? 2 rest
  let (fraction, rest) ← fraction? rest
  let (ahead, rest) ← offset? rest
  if hour < 24 ∧ minute < 60 ∧ second ≤ 60 ∧ ahead.natAbs < 86400 ∧ dropWhiteSpace rest = [] then
    let wholeSecond := hour * 3600 + minute * 60 + min second 59
    let nanos := if second = 60 then fraction + nanosPerSecond else fraction
    Instant.ofLocal? ahead date wholeSecond nanos
  else none

end TextIndex.Time
