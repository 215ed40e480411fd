import AccumulatorMachine.Numeral.Decimal

/-!
# Closed intervals of integers

An interval whose last number is below its first one is empty.
-/

namespace AccumulatorMachine

/-- The integers from `first` to `last`. -/
structure Interval where
  first : Int
  last : Int
  deriving DecidableEq, Repr

namespace Interval

/-- The `length` integers that start at `first`. -/
def ofLength (first length : Int) : Interval :=
  ⟨first, first + length - 1⟩

/-- Whether an integer lies in the interval. -/
def contains (interval : Interval) (n : Int) : Bool :=
  decide (interval.first ≤ n) && decide (n ≤ interval.last)

/-- Whether the interval has no element. -/
def isEmpty (interval : Interval) : Bool :=
  decide (interval.last < interval.first)

/-- Whether every element of the other interval is in this one. -/
def includes (interval other : Interval) : Bool :=
  other.isEmpty || (interval.contains other.first && interval.contains other.last)

/-- Both ends between brackets. -/
def text (interval : Interval) : String :=
  "[" ++ Decimal.ofInt interval.first ++ ", " ++ Decimal.ofInt interval.last ++ "]"

@[simp] theorem contains_iff (interval : Interval) (n : Int) :
    interval.contains n = true ↔ interval.first ≤ n ∧ n ≤ interval.last := by
  simp [contains]

@[simp] theorem isEmpty_iff (interval : Interval) :
    interval.isEmpty = true ↔ interval.last < interval.first := by
  simp [isEmpty]

/-- Inclusion by the two ends is inclusion of all elements. -/
theorem includes_iff (interval other : Interval) :
    interval.includes other = true ↔
      ∀ n, other.contains n = true → interval.contains n = true := by
  simp only [includes, Bool.or_eq_true, Bool.and_eq_true, isEmpty_iff, contains_iff]
  constructor
  · rintro (empty | ⟨firstInside, lastInside⟩) n ⟨lower, upper⟩ <;> omega
  · intro inclusion
    by_cases empty : other.last < other.first
    · exact Or.inl empty
    · exact Or.inr ⟨inclusion _ (by omega), inclusion _ (by omega)⟩

end Interval
end AccumulatorMachine
