import SortBench.Fault.Precondition

/-!
# Requirements on positions

Positions, sizes and range ends are given as integers. These checks decide whether they lie
in an array of the given length, and which condition is violated first if they do not.
-/

namespace SortBench.Bench

/-- A number of items is not negative and at most the length. -/
def requireSize (length : Nat) (size : Int) : Requirement (0 ≤ size ∧ size ≤ length) :=
  if negative : size < 0 then .violated (.negativeSize size)
  else if beyond : length < size then .violated (.sizeBeyondArray size length)
  else .met (by omega)

/-- The low end of a range is not negative and its high end is a position or below all of
them. The two ends may be in any order. -/
def requireRange (length : Nat) (low high : Int) : Requirement (0 ≤ low ∧ high < length) :=
  if negative : low < 0 then .violated (.negativeLow low)
  else if beyond : length ≤ high then .violated (.highOutOfBounds high length)
  else .met (by omega)

/-- An integer is a position. -/
def requireIndex (length : Nat) (index : Int) : Requirement (0 ≤ index ∧ index < length) :=
  if outside : index < 0 ∨ length ≤ index then .violated (.indexOutOfBounds index length)
  else .met (by omega)

end SortBench.Bench
