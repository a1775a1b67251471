import SortBench.Register.Generator

/-!
# Demands on a generator

What can be asked of a generator, as data, and how it answers: with the values drawn, in
order, or with the cause of a refusal. A refused demand leaves the generator as it is.
-/

namespace SortBench.Generator

/-- Something asked of a generator. -/
inductive Demand where
  /-- The next value. -/
  | next
  /-- As many values as an integer says. -/
  | take (count : Int)
  /-- As many values as a reader takes from a stream of values. -/
  | stream (count : Nat)
  /-- A start from another seed. -/
  | reseed (seed : Int)
  deriving DecidableEq, Repr

/-- Meet a demand: the values drawn or the cause of a refusal, and the generator afterwards. -/
def meet (generator : Generator) : Demand → Except Precondition (List Nat) × Generator
  | .next => (.ok [generator.next.register], generator.next)
  | .take count =>
    match generator.take count with
    | .ok (values, after) => (.ok values, after)
    | .error cause => (.error cause, generator)
  | .stream count =>
    let (values, after) := generator.draw count
    (.ok values, after)
  | .reseed seed =>
    match generator.reseed seed with
    | .ok after => (.ok [], after)
    | .error cause => (.error cause, generator)

/-- Meet demands one after another: the answers in order, and what is there in the end. The same for
whatever meets demands of whatever kind. -/
def meetEach {σ δ α : Type} (meet : σ → δ → α × σ) (state : σ) : List δ → List α × σ
  | [] => ([], state)
  | demand :: later =>
    let (answer, after) := meet state demand
    let (answers, final) := meetEach meet after later
    (answer :: answers, final)

end SortBench.Generator
