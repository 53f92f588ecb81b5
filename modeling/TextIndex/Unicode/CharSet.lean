/-!
# Sets of code points

A set of code points is kept as an inversion list: the ascending code points at which membership
flips, the first of them from outside to inside. A code point belongs to the set when an odd number
of boundaries lie at or below it.

* `CharSet.contains`: membership, by bisection.
-/

namespace TextIndex.Unicode

/-- A set of code points, given by the ascending code points at which membership flips. -/
structure CharSet where
  boundaries : Array Nat

namespace CharSet

/-- How many of the boundaries from `low` up to `high` lie at or below `point`, added to `low`. -/
def rankBetween (boundaries : Array Nat) (point low high : Nat) : Nat :=
  if low < high then
    let middle := (low + high) / 2
    if boundaries.getD middle 0 ≤ point then rankBetween boundaries point (middle + 1) high
    else rankBetween boundaries point low middle
  else low
termination_by high - low

/-- The number of boundaries at or below a code point. -/
def rank (set : CharSet) (point : Nat) : Nat :=
  rankBetween set.boundaries point 0 set.boundaries.size

def contains (set : CharSet) (c : Char) : Bool :=
  set.rank c.toNat % 2 == 1

end CharSet

end TextIndex.Unicode
