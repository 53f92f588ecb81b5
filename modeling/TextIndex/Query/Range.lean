import TextIndex.Index.Reader
import TextIndex.Query.Match

/-!
# Range queries

A range query finds the documents that have a number between two bounds in a field. One of the
bounds may be left open. The lower bound belongs to the range and the upper one does not, unless the
query says otherwise.

* `RangeQuery.contains`: whether a number is in the range.
* `RangeQuery.search`: the documents that it finds.
* `RangeQuery.toJson`, `RangeQuery.ofJson?`: range queries in JSON.
-/

namespace TextIndex

/-- A query for numbers between two bounds in a field. -/
structure RangeQuery where
  min : Option Binary64 := none
  max : Option Binary64 := none
  inclusiveMin : Option Bool := none
  inclusiveMax : Option Bool := none
  field : String := ""
  boost : Option Binary64 := none
deriving DecidableEq, Repr

namespace RangeQuery

/-- Whether a number is not too small. -/
def admitsAbove (query : RangeQuery) (value : Binary64) : Bool :=
  match query.min with
  | some bound => if query.inclusiveMin.getD true then bound.le value else bound.lt value
  | none => true

/-- Whether a number is not too large. -/
def admitsBelow (query : RangeQuery) (value : Binary64) : Bool :=
  match query.max with
  | some bound => if query.inclusiveMax.getD false then value.le bound else value.lt bound
  | none => true

def contains (query : RangeQuery) (value : Binary64) : Bool :=
  query.admitsAbove value && query.admitsBelow value

/-- A query needs a bound and a field. -/
def validate (query : RangeQuery) : Except IndexError Unit :=
  if query.min = none ∧ query.max = none then .error (.argument .rangeWithoutBound)
  else if query.field = "" then .error (.argument .rangeWithoutField)
  else .ok ()

/-- The score of every match. -/
def score (query : RangeQuery) : Binary64 :=
  query.boost.getD .one

/-- The visible documents of a segment that have a number of the range in the field. -/
def matchesIn (query : RangeQuery) (view : SegmentView) : List DocumentMatch :=
  view.visible.filterMap fun doc =>
    if ((view.segment.numbers? query.field doc).getD []).any query.contains then
      (view.segment.externalId? doc).map fun id => ⟨id, query.score⟩
    else none

/-- The visible documents that have a number of the range in the field. -/
def search (query : RangeQuery) (snapshot : Snapshot) : Except IndexError (List DocumentMatch) :=
  query.validate.map fun _ => DocumentMatch.sorted (snapshot.segments.flatMap query.matchesIn)

/-- A part of a query as it is written: nothing if it is absent. -/
def optionalField {α : Type} (name : String) (write : α → Json) (value : Option α) :
    List (String × Json) :=
  (value.map fun value => (name, write value)).toList

/-- A query as it is written. Absent parts and an empty field name are left out. -/
def toJson (query : RangeQuery) : Json :=
  .structured <|
    optionalField "min" .binary64 query.min ++
    optionalField "max" .binary64 query.max ++
    optionalField "inclusive_min" .bool query.inclusiveMin ++
    optionalField "inclusive_max" .bool query.inclusiveMax ++
    (if query.field = "" then [] else [("field", .string query.field)]) ++
    optionalField "boost" .binary64 query.boost

/-- The query that a JSON text stands for. -/
def ofJson? (json : Json) : Option RangeQuery := do
  let record ← json.record?
    ["min", "max", "inclusive_min", "inclusive_max", "field", "boost"]
  let lower ← record.orDefault "min" (Json.nullable? Json.binary64?) none
  let upper ← record.orDefault "max" (Json.nullable? Json.binary64?) none
  let inclusiveMin ← record.orDefault "inclusive_min" (Json.nullable? Json.bool?) none
  let inclusiveMax ← record.orDefault "inclusive_max" (Json.nullable? Json.bool?) none
  let field ← record.orDefault "field" Json.string? ""
  let boost ← record.orDefault "boost" (Json.nullable? Json.binary64?) none
  some ⟨lower, upper, inclusiveMin, inclusiveMax, field, boost⟩

end RangeQuery

end TextIndex
