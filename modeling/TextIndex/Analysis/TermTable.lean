import Std.Data.ExtTreeMap
import TextIndex.Number.Total

/-!
# Term tables

A table counts how often each term occurs in a field of one document and may keep the places where
it does. Tables are put together by adding up counts and appending places. When a field is taken up
into a composite field, its places are marked with its name.

* `TermTable.ofTokens`: the table of the tokens of a text.
* `TermTable.merge`: two values of one field in one table.
* `TermTable.mergeFrom`: a table with another field taken up.
-/

namespace TextIndex

/-- A piece of a text that is one term, by its ordinal position and its bytes. -/
structure Token where
  text : String
  position : Nat
  start : Nat
  stop : Nat
deriving DecidableEq, Repr

/-- Where a term occurs. -/
structure Place where
  /-- The field that the term was taken up from, in a composite field. -/
  source : Option String
  position : Nat
  start : Nat
  stop : Nat
deriving DecidableEq, Repr

/-- Where a token stands in the field that it is a part of. -/
def Token.place (token : Token) : Place :=
  ⟨none, token.position, token.start, token.stop⟩

/-- How often a term occurs, and where, if places are kept. -/
structure TermUse where
  /-- The number of occurrences as a word, which wraps: a table can be merged with itself over and
  over. -/
  count : UInt64
  places : List Place
deriving DecidableEq, Repr

namespace TermUse

/-- The occurrences of one use after those of another. -/
def append (first second : TermUse) : TermUse :=
  ⟨first.count + second.count, first.places ++ second.places⟩

/-- The occurrences as they are taken up from a field. -/
def takenFrom (field : String) (use : TermUse) : TermUse :=
  ⟨use.count, use.places.map fun place => { place with source := some field }⟩

/-- One occurrence. -/
def ofToken (withPlaces : Bool) (token : Token) : TermUse :=
  ⟨1, if withPlaces then [token.place] else []⟩

end TermUse

/-- The terms of a field, each with how it is used. -/
structure TermTable where
  uses : Std.ExtTreeMap String TermUse
deriving DecidableEq

namespace TermTable

/-- The table without terms. -/
def empty : TermTable := ⟨∅⟩

instance : EmptyCollection TermTable := ⟨empty⟩

instance : Inhabited TermTable := ⟨empty⟩

/-- How a term is used. -/
def get? (table : TermTable) (term : String) : Option TermUse :=
  table.uses[term]?

def size (table : TermTable) : Nat :=
  table.uses.size

def isEmpty (table : TermTable) : Bool :=
  table.uses.isEmpty

/-- The terms in ascending order, each with how it is used. -/
def toList (table : TermTable) : List (String × TermUse) :=
  table.uses.toList

/-- The table with further occurrences of a term. -/
def add (table : TermTable) (term : String) (use : TermUse) : TermTable :=
  ⟨table.uses.alter term fun
    | some earlier => some (earlier.append use)
    | none => some use⟩

/-- The table with the occurrences listed. -/
def addAll (table : TermTable) (uses : List (String × TermUse)) : TermTable :=
  uses.foldl (fun table entry => table.add entry.1 entry.2) table

/-- The table of tokens, with or without their places. -/
def ofTokens (withPlaces : Bool) (tokens : List Token) : TermTable :=
  empty.addAll (tokens.map fun token => (token.text, .ofToken withPlaces token))

/-- A table with another one of the same field put to it. -/
def merge (table other : TermTable) : TermTable :=
  table.addAll other.toList

/-- A table of a composite field with the table of a field taken up. -/
def mergeFrom (table : TermTable) (field : String) (other : TermTable) : TermTable :=
  table.addAll (other.toList.map fun entry => (entry.1, entry.2.takenFrom field))

def occurrences (table : TermTable) : Nat :=
  Number.total (table.toList.map (·.2.count.toNat))

end TermTable

end TextIndex
