import TextIndex.Index.Reader
import TextIndex.Query.Match

/-!
# Term queries

A term query finds the documents that hold one term in one field.

* `TermQuery.search`: the documents that it finds.
* `TermQuery.toJson`, `TermQuery.ofJson?`: term queries in JSON.
-/

namespace TextIndex

/-- A query for one term in one field. -/
structure TermQuery where
  field : String
  term : String
  /-- The score of every match. -/
  boost : Binary64 := .one
deriving DecidableEq, Repr

namespace TermQuery

/-- A query has to name a field. -/
def validate (query : TermQuery) : Except IndexError Unit :=
  if query.field = "" then .error (.argument .termWithoutField) else .ok ()

/-- The visible documents that hold the term in the field. -/
def search (query : TermQuery) (snapshot : Snapshot) : Except IndexError (List DocumentMatch) :=
  query.validate.map fun _ =>
    DocumentMatch.sorted <|
      (snapshot.termMatches query.field query.term).map fun found => ⟨found.id, query.boost⟩

def toJson (query : TermQuery) : Json :=
  .structured [("field", .string query.field), ("term", .string query.term),
    ("boost", .binary64 query.boost)]

/-- The query that a JSON text stands for. -/
def ofJson? (json : Json) : Option TermQuery := do
  let record ← json.record? ["field", "term", "boost"]
  let field ← record.required "field" Json.string?
  let term ← record.required "term" Json.string?
  let boost ← record.orDefault "boost" Json.binary64? .one
  some ⟨field, term, boost⟩

end TermQuery

end TextIndex
