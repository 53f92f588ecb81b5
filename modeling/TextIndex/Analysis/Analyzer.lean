import TextIndex.Analysis.TermTable
import TextIndex.Document.Field
import TextIndex.Text.Lowercase
import TextIndex.Text.WordSegments

/-!
# Analyzers

An analyzer splits a text into tokens, or fails. The standard analyzer takes the words of a text in
lowercase, the keyword analyzer takes the whole text as it stands. Every field has an analyzer of
its own or the one that is the fallback; the identity field is always analyzed as a keyword, so that
an external id is exactly one term.

* `Analyzer.standard`, `Analyzer.keyword`: the analyzers that are built in.
* `FieldAnalyzers.analyzerOf`: the analyzer of a field.
-/

namespace TextIndex

open TextIndex.Text

/-- How an analyzer fails. -/
inductive AnalyzerFault
  | failed (error : IndexError)
  /-- The analyzer crashed, with some last words or without. -/
  | crashed (words : Option String)
deriving DecidableEq

/-- A named way to split texts into tokens. -/
structure Analyzer where
  name : String
  analyze : String → Except AnalyzerFault (List Token)

namespace Analyzer

/-- Whether a word is short enough to be kept. -/
def keeps (maxBytes : Option Nat) (word : List Char) : Bool :=
  maxBytes.all (byteLength word ≤ ·)

/-- The token of a word, given by its byte offset, at a position. -/
def wordToken (position : Nat) (word : Nat × List Char) : Token where
  text := String.ofList (lowercase word.2)
  position := position
  start := word.1
  stop := word.1 + byteLength word.2

/-- The words of a text that are not too long, in lowercase and numbered in order. -/
def wordTokens (maxBytes : Option Nat) (text : String) : List Token :=
  ((words text.toList).filter fun word => keeps maxBytes word.2).mapIdx wordToken

/-- Words in lowercase; those of more than `maxBytes` bytes are dropped. -/
def standard (maxBytes : Option Nat) : Analyzer where
  name := "standard"
  analyze text := .ok (wordTokens maxBytes text)

/-- The whole text as one token. -/
def wholeToken (text : String) : Token :=
  ⟨text, 0, 0, text.utf8ByteSize⟩

/-- The whole text as it stands. -/
def keyword : Analyzer where
  name := "keyword"
  analyze text := .ok [wholeToken text]

end Analyzer

/-- The analyzers of the fields of an index. -/
structure FieldAnalyzers where
  /-- The analyzer of fields without one of their own. -/
  fallback : Analyzer
  byField : Std.ExtTreeMap String Analyzer

namespace FieldAnalyzers

/-- One analyzer for all fields. -/
def of (fallback : Analyzer) : FieldAnalyzers :=
  ⟨fallback, ∅⟩

/-- A field's own analyzer, replacing an earlier one. -/
def insert (analyzers : FieldAnalyzers) (field : String) (analyzer : Analyzer) : FieldAnalyzers :=
  { analyzers with byField := analyzers.byField.insert field analyzer }

/-- The analyzer of a field. That of the identity field cannot be replaced. -/
def analyzerOf (analyzers : FieldAnalyzers) (field : String) : Analyzer :=
  if field = identityName then .keyword
  else analyzers.byField.getD field analyzers.fallback

/-- The tokens of a text in a field. -/
def analyzeField (analyzers : FieldAnalyzers) (field text : String) :
    Except AnalyzerFault (List Token) :=
  (analyzers.analyzerOf field).analyze text

/-- The fallback as an analyzer under a name of its own, for texts that belong to no field. -/
def toAnalyzer (analyzers : FieldAnalyzers) : Analyzer where
  name := "per_field"
  analyze := analyzers.fallback.analyze

end FieldAnalyzers

end TextIndex
