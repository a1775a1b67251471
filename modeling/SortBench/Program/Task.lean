import SortBench.Program.Algorithm

/-!
# Tasks for the bench

The operations that change an array, as data: which one, and with which arguments. A task is
performed with a registry, from which it may choose an algorithm by name. Of all tasks only a
partition has an answer, the position of its pivot.
-/

namespace SortBench

/-- An operation with its arguments. A sequence of tasks is what a caller can do with one array. -/
inductive Task where
  /-- Exchange the items at two positions. -/
  | swap (a b : Int)
  /-- Bubble sort of the first items. -/
  | bubbleSort (size : Int)
  /-- Partition of a range. -/
  | partition (low high : Int)
  /-- Recursive quicksort of a range. -/
  | quickSort (low high : Int)
  /-- Quicksort of a range over a stack. -/
  | quickSortIterative (low high : Int)
  /-- The algorithm of a name on the whole array. -/
  | sort (algorithm : Text)
  deriving DecidableEq, Repr

namespace Task

/-- Perform an operation that has no answer. -/
def silently (operation : Operation Unit) : Operation (Option Nat) := fun bench =>
  let (outcome, after) := operation bench
  (outcome.map fun _ => none, after)

/-- Perform an operation that answers with a position. -/
def pointing (operation : Operation Nat) : Operation (Option Nat) := fun bench =>
  let (outcome, after) := operation bench
  (outcome.map some, after)

/-- Perform a task. Algorithms are found in a registry, and the other operations are those of the
bench. -/
def perform (registry : Registry) : Task → Operation (Option Nat)
  | swap a b => silently (Bench.swap a b)
  | bubbleSort size => silently (Bench.bubbleSort size)
  | partition low high => pointing (Bench.partition low high)
  | quickSort low high => silently (Bench.quickSort low high)
  | quickSortIterative low high => silently (Bench.quickSortIterative low high)
  | sort algorithm => silently (registry.sort algorithm)

end Task

end SortBench
