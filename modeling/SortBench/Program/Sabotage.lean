import SortBench.Program.Algorithm

/-!
# Deliberately wrong algorithms

Algorithms that do not sort, for trying out how results are judged. None of them counts any
work. Those that need a value of the array fail when it has none.
-/

namespace SortBench

/-- A way not to sort. -/
inductive Sabotage where
  /-- Leave the array as it is. -/
  | idle
  /-- Remove the last value. -/
  | dropLast
  /-- Overwrite every value with the first. -/
  | repeatFirst
  /-- Reverse the array. -/
  | reverse
  /-- Fail as if the recursion were too deep. -/
  | exhaust
  deriving DecidableEq, Repr

/-- The algorithm that carries out a sabotage. -/
def Sabotage.algorithm : Sabotage → Algorithm
  | idle => fun bench => (.ok (), bench)
  | dropLast => fun bench =>
    if bench.values.isEmpty then (.error (.emptyArray "pop from empty list"), bench)
    else (.ok (), { bench with values := bench.values.pop })
  | repeatFirst => fun bench =>
    match bench.values[0]? with
    | none => (.error (.emptyArray "list index out of range"), bench)
    | some first => (.ok (), { bench with values := bench.values.map fun _ => first })
  | reverse => fun bench => (.ok (), { bench with values := bench.values.reverse })
  | exhaust => fun bench => (.error (.exhausted "injected"), bench)

end SortBench
