import SortBench.Bench.Basic
import SortBench.Bench.Requirements
import SortBench.Sorting.Bubble
import SortBench.Sorting.Pending
import SortBench.Sorting.Quick

/-!
# Operations on the bench

The exchange of two items, the partition of a range, and the three sorts. Each checks its
arguments first and leaves the bench untouched when it refuses them. Ranges include both
their ends.
-/

namespace SortBench.Bench

open Sorting

/-- The deepest level of a range that the recursive sort may partition. It stands for the room that
a runtime leaves to a recursion; what is proved of it is proved of any bound. -/
def deepestLevel : Nat := 950

/-- The fault of a recursion beyond the deepest level. -/
def tooDeep : Fault :=
  .exhausted "maximum recursion depth exceeded in comparison"

/-- Exchange the items at two positions. The first position is checked before the second, and no
work is counted. -/
def swap (a b : Int) : Operation Unit := fun bench =>
  match requireIndex bench.values.size a with
  | .violated cause => refuse cause bench
  | .met first =>
    match requireIndex bench.values.size b with
    | .violated cause => refuse cause bench
    | .met second =>
      (.ok (),
        { bench with
          values := bench.values.swap a.toNat b.toNat (by omega) (by omega) })

/-- Bubble sort of the first `size` items. Items behind them are neither compared nor moved. -/
def bubbleSort (size : Int) : Operation Unit := fun bench =>
  match requireSize bench.values.size size with
  | .violated cause => refuse cause bench
  | .met inside => perform bench (Bubble.sort order size.toNat (by omega))

/-- The span of a range that has at least one position. -/
def span {length : Nat} {low high : Int} (some : low ≤ high)
    (inside : 0 ≤ low ∧ high < length) : Span length :=
  { start := low.toNat
    stop := high.toNat + 1
    ordered := by omega
    inside := by omega }

/-- Partition a range around its last item, and answer where that item comes to stand. An empty
range is refused even before it is looked at where it lies. -/
def partition (low high : Int) : Operation Nat := fun bench =>
  if empty : high < low then refuse (.emptyRange low high) bench
  else
    match requireRange bench.values.size low high with
    | .violated cause => refuse cause bench
    | .met inside =>
      perform bench fun items tally =>
        (Partition.run order (span (by omega) inside) (by simp only [span]; omega) items
          tally).andThen fun items tally position => .done items tally position.index

/-- Do nothing to a range of fewer than two positions, wherever it lies, and sort any other
by the given sort of its span. -/
def sortRange (low high : Int)
    (sort : {length : Nat} → Span length → Vector Value length → Tally →
      Outcome Value Fault Unit length) : Operation Unit := fun bench =>
  if trivial : high ≤ low then (.ok (), bench)
  else
    match requireRange bench.values.size low high with
    | .violated cause => refuse cause bench
    | .met inside => perform bench (sort (span (by omega) inside))

/-- Quicksort of a range by recursion, down to the deepest level; below it the sort gives up, with
what it has done so far left in place. -/
def quickSort (low high : Int) : Operation Unit :=
  sortRange low high (Quick.sort order tooDeep deepestLevel 1)

/-- Quicksort of a range over a stack of pending ranges, which never gives up. -/
def quickSortIterative (low high : Int) : Operation Unit :=
  sortRange low high (Pending.sort order)

end SortBench.Bench
