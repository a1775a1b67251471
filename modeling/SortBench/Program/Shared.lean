import SortBench.Program.Spec
import SortBench.Register.Demand

/-!
# The shared generator

One generator is shared by all who do not own one. Only draws from it and new seeds for it
change it; inputs of programs and values from generators of one's own leave it alone, however
they are mixed with draws.
-/

namespace SortBench.Shared

/-- Something asked while a generator is shared. -/
inductive Demand where
  /-- So many values of the shared generator, one by one. -/
  | draw (times : Nat)
  /-- A new seed for the shared generator. -/
  | reseed (seed : Int)
  /-- The input of a program. -/
  | input (spec : Spec)
  /-- Values of a new generator with the default seed. -/
  | own (count : Int)
  deriving DecidableEq, Repr

/-- Register values as values. -/
def valuesOf (outcome : Except Precondition (List Nat)) : Except Precondition (List Value) :=
  outcome.map fun drawn => drawn.map fun (value : Nat) => .integer value

/-- Meet a demand: the values asked for or the cause of a refusal, and the shared generator
afterwards. -/
def meet (generator : Generator) : Demand → Except Precondition (List Value) × Generator
  | .draw times =>
    let (drawn, after) := generator.meet (.stream times)
    (valuesOf drawn, after)
  | .reseed seed =>
    let (drawn, after) := generator.meet (.reseed seed)
    (valuesOf drawn, after)
  | .input spec => (spec.input 0, generator)
  | .own count => (valuesOf (Generator.default.meet (.take count)).1, generator)

end SortBench.Shared
