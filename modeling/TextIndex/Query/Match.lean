import TextIndex.Number.Binary64
import TextIndex.Json.Record

/-!
# Matches

A query finds visible documents, each with a score. Matches are listed in order of external ids.

* `DocumentMatch.sorted`: matches in their order.
* `DocumentMatch.toJson`, `DocumentMatch.ofJson?`: matches in JSON.
-/

namespace TextIndex

/-- A visible document that a query found. -/
structure DocumentMatch where
  id : String
  score : Binary64
deriving DecidableEq, Repr

namespace DocumentMatch

/-- Matches in order of external ids. -/
def sorted (found : List DocumentMatch) : List DocumentMatch :=
  found.mergeSort fun first second => (compare first.id second.id).isLE

def toJson (found : DocumentMatch) : Json :=
  .structured [("id", .string found.id), ("score", .binary64 found.score)]

/-- The match that a JSON text stands for. -/
def ofJson? (json : Json) : Option DocumentMatch := do
  let record ← json.record? ["id", "score"]
  let id ← record.required "id" Json.string?
  let score ← record.required "score" Json.binary64?
  some ⟨id, score⟩

end DocumentMatch

end TextIndex
