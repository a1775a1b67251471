import SortBench.Text.Basic

/-!
# Tally of work

The work of a sort is counted in five figures. Four of them only add up; the depth keeps the
deepest level reached. A comparison is counted before it is made, so one that is refused is
counted too.
-/

namespace SortBench.Sorting

/-- Work done by a sort. The figures are natural numbers: counting starts from nothing or from what
was counted before and never goes down, so no counter is negative. A record with a negative counter,
which nobody could have counted, has no counterpart here. -/
structure Tally where
  /-- Comparisons of items. -/
  comparisons : Nat := 0
  /-- Exchanges of items, those of an item with itself included. -/
  swaps : Nat := 0
  /-- Passes of the bubble sort. -/
  passes : Nat := 0
  /-- Partitions of a range. -/
  partitions : Nat := 0
  /-- The deepest level of a partitioned range; the whole range is level one. -/
  maxDepth : Nat := 0
  deriving DecidableEq, Repr

namespace Tally

/-- Count a comparison. -/
def compared (tally : Tally) : Tally :=
  { tally with comparisons := tally.comparisons + 1 }

/-- Count an exchange. -/
def swapped (tally : Tally) : Tally :=
  { tally with swaps := tally.swaps + 1 }

/-- Count a pass. -/
def passed (tally : Tally) : Tally :=
  { tally with passes := tally.passes + 1 }

/-- Count a partition. -/
def partitioned (tally : Tally) : Tally :=
  { tally with partitions := tally.partitions + 1 }

/-- Record that a range of the given level is about to be partitioned. Levels do not add up; the
deepest one is kept. -/
def reached (tally : Tally) (depth : Nat) : Tally :=
  { tally with maxDepth := max tally.maxDepth depth }

/-- The work of one sort after another: counts are added, and of the two depths the greater one
stays. -/
def merge (first second : Tally) : Tally :=
  { comparisons := first.comparisons + second.comparisons
    swaps := first.swaps + second.swaps
    passes := first.passes + second.passes
    partitions := first.partitions + second.partitions
    maxDepth := max first.maxDepth second.maxDepth }

/-- The figures with their names, in the order in which they are reported. -/
def figures (tally : Tally) : List (Text × Int) :=
  [("comparisons", tally.comparisons), ("swaps", tally.swaps), ("passes", tally.passes),
    ("partitions", tally.partitions), ("max_depth", tally.maxDepth)]

end Tally

end SortBench.Sorting
