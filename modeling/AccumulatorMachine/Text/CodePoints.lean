/-!
# Sets of code points

A set of characters is given by the intervals of code points that make it up,
as the tables of the Unicode character database are.
-/

namespace AccumulatorMachine
namespace Text

/-- A set of characters, as closed intervals of code points. -/
structure CodePoints where
  /-- First and last code point of each interval. -/
  intervals : List (Nat × Nat)

namespace CodePoints

/-- A character belongs to a set when one of the intervals covers it. -/
def contains (set : CodePoints) (c : Char) : Bool :=
  set.intervals.any fun interval =>
    decide (interval.1 ≤ c.toNat) && decide (c.toNat ≤ interval.2)

end CodePoints
end Text
end AccumulatorMachine
