import TextIndex.Unicode.Casing

/-!
# Lowercase of a text

Each character is replaced by its lowercase. A capital sigma at the end of a word, that is, after a
cased character and not before one, becomes the final small sigma; case ignorable characters are
looked through on both sides.

* `lowercase`: the lowercase of a text.
-/

namespace TextIndex.Text

open TextIndex.Unicode

/-- Whether the first character that is not case ignorable is cased. -/
def meetsCased (text : List Char) : Bool :=
  match text.dropWhile isCaseIgnorable with
  | [] => false
  | c :: _ => isCased c

/-- The small sigma after the given characters, nearest first, and before the given ones. -/
def sigmaBetween (before after : List Char) : Char :=
  if meetsCased before && !meetsCased after then 'ς' else 'σ'

/-- The lowercase of a text that stands after the given characters, nearest first. -/
def lowercaseAfter (before : List Char) : List Char → List Char
  | [] => []
  | c :: rest =>
    (if c = 'Σ' then [sigmaBetween before rest] else lowercaseOf c) ++
      lowercaseAfter (c :: before) rest

def lowercase (text : List Char) : List Char :=
  lowercaseAfter [] text

end TextIndex.Text
