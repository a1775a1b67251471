import SortBench.Program.Shared

/-!
# Generators side by side

Besides the shared generator there are others, each of which somebody owns. A new one may be started
at any time, and every owned generator may be asked for anything at any time, between demands that
concern the shared one.
-/

namespace SortBench

/-- The shared generator, and the owned ones in the order in which they were started. -/
structure Ensemble where
  /-- The shared generator. -/
  shared : Generator
  /-- The owned generators. -/
  owned : List Generator := []

namespace Ensemble

/-- Something asked while there are several generators. -/
inductive Demand where
  /-- Something asked while a generator is shared. -/
  | shared (demand : Shared.Demand)
  /-- A further generator that starts from a seed. -/
  | start (seed : Int)
  /-- Something asked of the owned generator at a position. -/
  | owned (position : Nat) (demand : Generator.Demand)
  deriving DecidableEq, Repr

/-- Meet a demand: the values asked for or the cause of a refusal, and the generators afterwards.
Where there is no owned generator, nothing is drawn. -/
def meet (ensemble : Ensemble) : Demand → Except Precondition (List Value) × Ensemble
  | .shared demand =>
    let (answer, after) := Shared.meet ensemble.shared demand
    (answer, { ensemble with shared := after })
  | .start seed =>
    match Generator.ofSeed seed with
    | .ok generator => (.ok [], { ensemble with owned := ensemble.owned ++ [generator] })
    | .error cause => (.error cause, ensemble)
  | .owned position demand =>
    match ensemble.owned[position]? with
    | none => (.ok [], ensemble)
    | some generator =>
      let (answer, after) := generator.meet demand
      (Shared.valuesOf answer, { ensemble with owned := ensemble.owned.set position after })

end Ensemble

end SortBench
