import SortBench.Fault.Basic
import SortBench.Sorting.Outcome

/-!
# The sorting bench

A bench holds the array that is being worked on and, if work is counted, the tally. An
operation changes the bench and then answers or fails; the bench as it then is remains, also
after a failure.
-/

namespace SortBench

/-- An array with the work counted so far, if work is counted. -/
structure Bench where
  /-- The array. -/
  values : Array Value
  /-- The work counted so far. -/
  tally : Option Sorting.Tally

/-- An operation on a bench: its answer or failure, and the bench afterwards. A failed operation has
a bench afterwards too, which need not be the one before. -/
abbrev Operation (β : Type) := Bench → Except Fault β × Bench

namespace Bench

/-- A bench with no work counted yet. -/
def ofList (values : List Value) : Bench :=
  { values := values.toArray, tally := some {} }

/-- The comparisons of values, a refused one being a fault. -/
def order : Sorting.Comparison Value Fault :=
  Value.order.mapError Fault.incomparable

/-- Fail for a violated condition and leave the bench as it is. -/
def refuse {β : Type} (cause : Precondition) : Operation β :=
  fun bench => (.error (.precondition cause), bench)

/-- Carry out a step on the items of the bench. The step counts its work from the tally of
the bench; where work is not counted, its count is dropped. -/
def perform {β : Type} (bench : Bench)
    (step : Vector Value bench.values.size → Sorting.Tally →
      Sorting.Outcome Value Fault β bench.values.size) : Except Fault β × Bench :=
  let outcome := step bench.values.toVector (bench.tally.getD {})
  (outcome.result,
    { values := outcome.items.toArray, tally := bench.tally.map fun _ => outcome.tally })

end Bench

end SortBench
