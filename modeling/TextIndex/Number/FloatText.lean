import TextIndex.Number.Shortest

/-!
# Texts of doubles

As an index term, a number is written out digit by digit, without an exponent, and a whole number
without a point. The values that are no finite number have names.

* `Binary64.termText`: the text of a value as an index term.
* `Binary64.ofText?`: the value that a text names.
-/

namespace TextIndex

namespace Binary64

/-- The name of a value that is no finite number. -/
def specialText (x : Binary64) : String :=
  if x.isNaN then "NaN" else if x.negative then "-inf" else "inf"

/-- The text of a value as an index term. Of two equally near shortest decimals the upper one is
written. -/
def termText (x : Binary64) : String :=
  if x.isFinite then
    let (whole, fraction) := (x.shortest .upward).positional
    String.ofList <|
      (if x.negative then ['-'] else []) ++ whole.map Number.digitChar ++
        if fraction = [] then [] else '.' :: fraction.map Number.digitChar
  else x.specialText

/-- The exponent part of a decimal text: nothing, or a letter, a sign and digits. -/
def exponentOfText? : List Char → Option Int
  | [] => some 0
  | mark :: rest =>
    if mark = 'e' ∨ mark = 'E' then
      let (negative, digits) := match rest with
        | '-' :: digits => (true, digits)
        | '+' :: digits => (false, digits)
        | digits => (false, digits)
      match Number.digitRun digits with
      | (run, []) =>
        if run = [] then none
        else some (if negative then -(Number.ofDigits run : Int) else Number.ofDigits run)
      | _ => none
    else none

/-- The value of a decimal text without a sign. -/
def ofDecimal? (negative : Bool) (text : List Char) : Option Binary64 :=
  let (whole, rest) := Number.digitRun text
  let (fraction, rest) := match rest with
    | '.' :: rest => Number.digitRun rest
    | rest => ([], rest)
  if whole = [] ∧ fraction = [] then none
  else
    (exponentOfText? rest).map fun exponent =>
      ofScientific negative (Number.ofDigits (whole ++ fraction)) (exponent - fraction.length)

/-- The value of a name: an infinity or no number, in letters of either case. -/
def ofName? (negative : Bool) (name : List Char) : Option Binary64 :=
  match String.ofList (name.map Char.toLower) with
  | "inf" | "infinity" => some (infinity negative)
  | "nan" => some nan
  | _ => none

/-- The value of a text without a sign, for a value of the given sign. -/
def ofUnsigned? (negative : Bool) (text : List Char) : Option Binary64 :=
  (ofDecimal? negative text).or (ofName? negative text)

/-- The value that a text names: a decimal, an infinity or no number, perhaps after a sign. -/
def ofText? (text : String) : Option Binary64 :=
  match text.toList with
  | '-' :: rest => ofUnsigned? true rest
  | '+' :: rest => ofUnsigned? false rest
  | rest => ofUnsigned? false rest

end Binary64

end TextIndex
