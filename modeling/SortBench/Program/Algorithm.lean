import SortBench.Bench.Operations
import SortBench.Bench.Verdict

/-!
# Registered algorithms

An algorithm is any operation on the bench; nothing is assumed of it, since a result is judged after
it was made. A registry finds algorithms by name. Three are built in, each sorting the whole array;
for these, and for no others, it is recorded whether they keep equal values in order.

An algorithm is a function of the bench that it is given. One that keeps a state of its own from
call to call, so that a second call differs from the first on the same bench, is not modelled.
-/

namespace SortBench

/-- An operation that is meant to sort the array of a bench. It has no state of its own: what it
does depends on the bench alone, and is the same whenever it is called. -/
abbrev Algorithm := Operation Unit

/-- Algorithms with their names. -/
structure Registry where
  /-- The entries; of several with one name the first counts. -/
  entries : List (Text × Algorithm)

namespace Algorithm

/-- Bubble sort of the whole array. -/
def bubble : Algorithm := fun bench =>
  bench.bubbleSort bench.values.size

/-- Recursive quicksort of the whole array. -/
def quick : Algorithm := fun bench =>
  bench.quickSort 0 (bench.values.size - 1)

/-- Quicksort of the whole array over a stack of pending ranges. -/
def quickIterative : Algorithm := fun bench =>
  bench.quickSortIterative 0 (bench.values.size - 1)

/-- Whether the algorithm of a name keeps equal values in order, where that is recorded. The record
goes by the name alone, so it stays when another algorithm is put in the place of a built-in one. -/
def stable? (name : Text) : Option Bool :=
  match name.string? with
  | some "bubble" => some true
  | some "quick" => some false
  | some "quick_iterative" => some false
  | _ => none

end Algorithm

/-- Names in order. -/
def sortedNames (names : List Text) : List Text :=
  names.mergeSort fun first second => !(second < first)

namespace Registry

/-- The built-in algorithms. -/
def builtIn : Registry :=
  { entries :=
      [("bubble", Algorithm.bubble), ("quick", Algorithm.quick),
        ("quick_iterative", Algorithm.quickIterative)] }

/-- The registry with an algorithm added, or replaced if its name is taken. -/
def insert (registry : Registry) (name : Text) (algorithm : Algorithm) : Registry :=
  { entries := (name, algorithm) :: registry.entries.filter fun entry => entry.1 != name }

/-- The algorithm of a name. -/
def find? (registry : Registry) (name : Text) : Option Algorithm :=
  registry.entries.lookup name

/-- The names of the registered algorithms in order. -/
def names (registry : Registry) : List Text :=
  sortedNames (registry.entries.map Prod.fst)

/-- Run the algorithm of a name on a bench. A name without an algorithm is refused, and the bench is
not touched. -/
def sort (registry : Registry) (name : Text) : Operation Unit :=
  match registry.find? name with
  | some algorithm => algorithm
  | none => Bench.refuse (.unknownAlgorithm name registry.names)

/-- Sort values with the algorithm of a name and judge what it left on the bench against the
values that it was given. -/
def sortJudged (registry : Registry) (name : Text) (input : List Value) : Except Fault Bench :=
  match registry.sort name (Bench.ofList input) with
  | (.error fault, _) => .error fault
  | (.ok (), bench) =>
    match Bench.verifySorted input bench.values.toList with
    | .error fault => .error fault
    | .ok () => .ok bench

end Registry

end SortBench
