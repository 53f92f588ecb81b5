import TextIndex.Json.Basic

/-!
# Reading JSON

The grammar of JSON texts. Each function reads one form at the start of a text and returns it with
what comes after it.

* `Json.parse?`: the value that a whole text is.
-/

namespace TextIndex.Json

open TextIndex.Number

/-- Whether a character may stand between the parts of a text. -/
def isBlank (c : Char) : Bool :=
  c == ' ' || c == '\t' || c == '\n' || c == '\r'

/-- The text from its first character that is no blank. -/
def skipBlanks (text : List Char) : List Char :=
  text.dropWhile isBlank

def hexDigit? (c : Char) : Option Nat :=
  if '0' ≤ c ∧ c ≤ '9' then some (c.toNat - '0'.toNat)
  else if 'a' ≤ c ∧ c ≤ 'f' then some (c.toNat - 'a'.toNat + 10)
  else if 'A' ≤ c ∧ c ≤ 'F' then some (c.toNat - 'A'.toNat + 10)
  else none

def codeUnit? (a b c d : Char) : Option UInt16 := do
  let a ← hexDigit? a
  let b ← hexDigit? b
  let c ← hexDigit? c
  let d ← hexDigit? d
  some (UInt16.ofNat (((a * 16 + b) * 16 + c) * 16 + d))

/-- The character that a letter stands for after a backslash. -/
def escaped? : Char → Option Char
  | '"' => some '"'
  | '\\' => some '\\'
  | '/' => some '/'
  | 'b' => some '\x08'
  | 't' => some '\x09'
  | 'n' => some '\x0a'
  | 'f' => some '\x0c'
  | 'r' => some '\x0d'
  | _ => none

/-- The units of a string after its opening quotation mark. -/
def units? : List Char → Option (List TextUnit × List Char)
  | [] => none
  | '"' :: rest => some ([], rest)
  | '\\' :: 'u' :: a :: b :: c :: d :: rest =>
    match codeUnit? a b c d, units? rest with
    | some unit, some (units, rest) => some (.code unit :: units, rest)
    | _, _ => none
  | '\\' :: letter :: rest =>
    match escaped? letter, units? rest with
    | some c, some (units, rest) => some (.char c :: units, rest)
    | _, _ => none
  | c :: rest =>
    if c.toNat < 0x20 ∨ c = '\\' then none
    else
      match units? rest with
      | some (units, rest) => some (.char c :: units, rest)
      | none => none

/-- The digits after a point, if one stands here. -/
def fraction? (text : List Char) : Option (List Nat × List Char) :=
  match text with
  | '.' :: rest => if (digitRun rest).1 = [] then none else some (digitRun rest)
  | text => some ([], text)

/-- The sign of an exponent, if one stands here. -/
def exponentSign (text : List Char) : Option Bool × List Char :=
  match text with
  | '-' :: rest => (some true, rest)
  | '+' :: rest => (some false, rest)
  | text => (none, text)

/-- The exponent part of a number, if one stands here. -/
def exponent? (text : List Char) : Option (Option Exponent × List Char) :=
  match text with
  | 'e' :: rest | 'E' :: rest =>
    let (sign, rest) := exponentSign rest
    if (digitRun rest).1 = [] then none
    else some (some ⟨sign, (digitRun rest).1⟩, (digitRun rest).2)
  | text => some (none, text)

/-- A number without its sign. No zero stands before another digit. -/
def unsigned? (negative : Bool) (text : List Char) : Option (Literal × List Char) :=
  match digitRun text with
  | ([], _) => none
  | (0 :: _ :: _, _) => none
  | (whole, rest) =>
    match fraction? rest with
    | none => none
    | some (fraction, rest) =>
      match exponent? rest with
      | none => none
      | some (exponent, rest) => some (⟨negative, whole, fraction, exponent⟩, rest)

def literal? (text : List Char) : Option (Literal × List Char) :=
  match text with
  | '-' :: rest => unsigned? true rest
  | text => unsigned? false text

mutual

/-- A value after any blanks, nested no deeper than `fuel` allows. -/
def value? (fuel : Nat) (text : List Char) : Option (Json × List Char) :=
  match fuel with
  | 0 => none
  | fuel + 1 =>
    match skipBlanks text with
    | 'n' :: 'u' :: 'l' :: 'l' :: rest => some (.null, rest)
    | 't' :: 'r' :: 'u' :: 'e' :: rest => some (.bool true, rest)
    | 'f' :: 'a' :: 'l' :: 's' :: 'e' :: rest => some (.bool false, rest)
    | '"' :: rest => (units? rest).map fun (units, rest) => (.text units, rest)
    | '[' :: rest =>
      match skipBlanks rest with
      | ']' :: rest => some (.array [], rest)
      | rest => (elements? fuel rest).map fun (elements, rest) => (.array elements, rest)
    | '\x7b' :: rest =>
      match skipBlanks rest with
      | '\x7d' :: rest => some (.object [], rest)
      | rest => (members? fuel rest).map fun (members, rest) => (.object members, rest)
    | rest => (literal? rest).map fun (literal, rest) => (.number literal, rest)

/-- The elements of an array that is not empty, up to its closing bracket. -/
def elements? (fuel : Nat) (text : List Char) : Option (List Json × List Char) :=
  match fuel with
  | 0 => none
  | fuel + 1 =>
    match value? fuel text with
    | none => none
    | some (element, rest) =>
      match skipBlanks rest with
      | ',' :: rest =>
        (elements? fuel rest).map fun (elements, rest) => (element :: elements, rest)
      | ']' :: rest => some ([element], rest)
      | _ => none

/-- The members of an object that is not empty, up to its closing brace. -/
def members? (fuel : Nat) (text : List Char) :
    Option (List (List TextUnit × Json) × List Char) :=
  match fuel with
  | 0 => none
  | fuel + 1 =>
    match skipBlanks text with
    | '"' :: rest =>
      match units? rest with
      | none => none
      | some (key, rest) =>
        match skipBlanks rest with
        | ':' :: rest =>
          match value? fuel rest with
          | none => none
          | some (value, rest) =>
            match skipBlanks rest with
            | ',' :: rest =>
              (members? fuel rest).map fun (members, rest) => ((key, value) :: members, rest)
            | '\x7d' :: rest => some ([(key, value)], rest)
            | _ => none
        | _ => none
    | _ => none

end

/-- The value that a text is, blanks around it aside. Every nested form takes a character of its
own, so the length of the text bounds the nesting. -/
def parse? (text : String) : Option Json :=
  match value? (2 * text.toList.length + 2) text.toList with
  | some (value, rest) => if skipBlanks rest = [] then some value else none
  | none => none

end TextIndex.Json
