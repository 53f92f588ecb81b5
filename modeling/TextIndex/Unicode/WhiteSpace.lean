/-!
# White space

The characters with the White_Space property.
-/

namespace TextIndex.Unicode

/-- Whether a character is white space, of any script. -/
def isWhiteSpace (c : Char) : Bool :=
  match c with
  | '\x09' | '\x0a' | '\x0b' | '\x0c' | '\x0d' | ' ' | '\u0085' | '\u00a0' | '\u1680' | '\u2000'
  | '\u2001' | '\u2002' | '\u2003' | '\u2004' | '\u2005' | '\u2006' | '\u2007' | '\u2008' | '\u2009'
  | '\u200a' | '\u2028' | '\u2029' | '\u202f' | '\u205f' | '\u3000' => true
  | _ => false

/-- The text from its first character that is no white space. -/
def dropWhiteSpace (text : List Char) : List Char :=
  text.dropWhile isWhiteSpace

end TextIndex.Unicode
