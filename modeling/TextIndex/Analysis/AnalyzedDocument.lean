import TextIndex.Analysis.Analyzer
import TextIndex.Document.Basic

/-!
# Analyzed documents

Analysis reduces every field of a document to a summary: its term table and its length in tokens. A
field that is not indexed has an empty summary. The summary of a composite field is made of those
of the plain fields that it takes up, in order.

* `analyzeDocument`: the analysis of a document that has its id.
* `AnalyzedDocument.slots`: each field, plain or composite, with its summary.
-/

namespace TextIndex

/-- The terms of a field and its length in tokens. -/
structure Summary where
  terms : TermTable
  length : Nat
deriving DecidableEq, Inhabited

namespace Summary

/-- The summary of a field without tokens. -/
def empty : Summary := ⟨∅, 0⟩

def ofTokens (withPlaces : Bool) (tokens : List Token) : Summary :=
  ⟨.ofTokens withPlaces tokens, tokens.length⟩

/-- Two values of one field in one summary. -/
def merge (summary other : Summary) : Summary :=
  ⟨summary.terms.merge other.terms, summary.length + other.length⟩

/-- The summary of a composite field with a field taken up. -/
def mergeFrom (summary : Summary) (field : String) (other : Summary) : Summary :=
  ⟨summary.terms.mergeFrom field other.terms, summary.length + other.length⟩

end Summary

/-- A field with its summary. -/
structure Slot where
  name : String
  summary : Summary
deriving DecidableEq

/-- A document and the summaries of its fields: the plain ones in order, then the composite
ones. -/
structure AnalyzedDocument where
  id : String
  document : Document
  summaries : List Summary
deriving DecidableEq, Inhabited

namespace AnalyzedDocument

/-- The names of the fields in the order of the summaries. -/
def names (analyzed : AnalyzedDocument) : List String :=
  analyzed.document.fields.map (·.name) ++ analyzed.document.composites.map (·.name)

/-- The name of a field by its number. -/
def fieldName? (analyzed : AnalyzedDocument) (slot : Nat) : Option String :=
  analyzed.names[slot]?

def slots (analyzed : AnalyzedDocument) : List Slot :=
  List.zipWith Slot.mk analyzed.names analyzed.summaries

end AnalyzedDocument

/-- The tokens of a field: those of its analyzer for running text, and otherwise the one token of
its value. -/
def Field.tokens (analyzers : FieldAnalyzers) (field : Field) :
    Except AnalyzerFault (List Token) :=
  match field.value with
  | .text words => analyzers.analyzeField field.name words
  | value =>
    match value.term? with
    | .ok term => .ok [Analyzer.wholeToken term]
    | .error fault => .error (.failed (.analysis fault))

/-- A fault with the name of the field where it arose. A crash leaves no time for that. -/
def AnalyzerFault.inField (field : String) : AnalyzerFault → AnalyzerFault
  | failed error => failed (.analysis (.inField field error))
  | crashed words => crashed words

/-- The summary of a plain field. -/
def Field.summarize (analyzers : FieldAnalyzers) (withPlaces : Bool) (field : Field) :
    Except AnalyzerFault Summary :=
  if field.options.indexed then
    match field.tokens analyzers with
    | .ok tokens => .ok (.ofTokens withPlaces tokens)
    | .error fault => .error (fault.inField field.name)
  else .ok .empty

/-- Whether a composite field takes up a field. -/
def CompositeField.takes (composite : CompositeField) (field : Field) : Bool :=
  field.options.indexed && field.options.composable && composite.includes field.name

/-- The summary of a composite field, from the plain fields and their summaries. -/
def CompositeField.summarize (composite : CompositeField) (sources : List (Field × Summary)) :
    Summary :=
  (sources.filter fun source => composite.takes source.1).foldl
    (fun summary source => summary.mergeFrom source.1.name source.2) .empty

/-- The analysis of a document that has its id. The first field that cannot be analyzed makes it
fail. -/
def analyzeDocument (analyzers : FieldAnalyzers) (withPlaces : Bool) (document : Document) :
    Except AnalyzerFault AnalyzedDocument :=
  match document.id with
  | none => .error (.failed (.argument .documentWithoutId))
  | some id =>
    match document.fields.mapM (Field.summarize analyzers withPlaces) with
    | .error fault => .error fault
    | .ok plain =>
      let sources := document.fields.zip plain
      .ok ⟨id, document, plain ++ document.composites.map (·.summarize sources)⟩

end TextIndex
