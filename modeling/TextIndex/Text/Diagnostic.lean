import TextIndex.Unicode.Printable

/-!
# Diagnostic texts

A text inside a diagnostic stands between quotation marks: the usual escapes for the quotation mark,
the backslash, the null character, the tab and the line ends, and the code point in braces for any
other character that does not show by itself.

* `quoted`: a text between quotation marks.
* `optional`: a value that may be absent.
-/

namespace TextIndex.Text.Diagnostic

open TextIndex.Unicode

/-- One character as it stands between quotation marks. -/
def escape (c : Char) : List Char :=
  match c with
  | '\x00' => ['\\', '0']
  | '\t' => ['\\', 't']
  | '\r' => ['\\', 'r']
  | '\n' => ['\\', 'n']
  | '"' => ['\\', '"']
  | '\\' => ['\\', '\\']
  | c =>
    if showsAlone c then [c]
    else ['\\', 'u', '\x7b'] ++ Nat.toDigits 16 c.toNat ++ ['\x7d']

def quoted (text : String) : String :=
  String.ofList ('"' :: text.toList.flatMap escape ++ ['"'])

/-- A value that may be absent, given how the value itself is shown. -/
def optional (shown : Option String) : String :=
  match shown with
  | some value => "Some(" ++ value ++ ")"
  | none => "None"

end TextIndex.Text.Diagnostic
