import TextIndex.Json.Basic

/-!
# Writing JSON

Values are written without blanks, in the order they are given.

* `Json.render`: the text of a value.
-/

namespace TextIndex.Json

open TextIndex.Number

def hexChar (digit : Nat) : Char :=
  Char.ofNat (if digit < 10 then 48 + digit else 87 + digit)

/-- A unit of a string as it is written. -/
def TextUnit.render : TextUnit → List Char
  | char c =>
    match shortEscape? c with
    | some letter => ['\\', letter]
    | none => [c]
  | code unit =>
    ['\\', 'u', hexChar (unit.toNat / 4096), hexChar (unit.toNat / 256 % 16),
      hexChar (unit.toNat / 16 % 16), hexChar (unit.toNat % 16)]

def renderText (units : List TextUnit) : List Char :=
  '"' :: units.flatMap TextUnit.render ++ ['"']

/-- The sign of an exponent as it is written. -/
def Exponent.renderSign (sign : Option Bool) : List Char :=
  match sign with
  | some true => ['-']
  | some false => ['+']
  | none => []

def Exponent.render (exponent : Exponent) : List Char :=
  'e' :: renderSign exponent.sign ++ exponent.digits.map digitChar

def Literal.render (literal : Literal) : List Char :=
  (if literal.negative then ['-'] else []) ++ literal.whole.map digitChar ++
    (if literal.fraction = [] then [] else '.' :: literal.fraction.map digitChar) ++
    literal.exponent.elim [] Exponent.render

mutual

def chars : Json → List Char
  | null => ['n', 'u', 'l', 'l']
  | bool true => ['t', 'r', 'u', 'e']
  | bool false => ['f', 'a', 'l', 's', 'e']
  | number literal => literal.render
  | text units => renderText units
  | array elements => '[' :: elementChars elements ++ [']']
  | object members => '\x7b' :: memberChars members ++ ['\x7d']

/-- The characters of the elements of an array, with commas between them. -/
def elementChars : List Json → List Char
  | [] => []
  | [element] => chars element
  | element :: next :: later => chars element ++ ',' :: elementChars (next :: later)

/-- The characters of the members of an object, with commas between them. -/
def memberChars : List (List TextUnit × Json) → List Char
  | [] => []
  | [(key, value)] => renderText key ++ ':' :: chars value
  | (key, value) :: next :: later =>
    renderText key ++ ':' :: chars value ++ ',' :: memberChars (next :: later)

end

def render (value : Json) : String :=
  String.ofList value.chars

end TextIndex.Json
