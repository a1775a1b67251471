import SortBench.Fault.Precondition
import SortBench.Register.Basic

/-!
# Generators

A generator owns a register whose value is never zero. It starts from a seed between one and
the largest register value; any other seed is refused. Every value drawn is the register
after one more step, however the values are asked for.
-/

namespace SortBench

/-- A source of register values. Its register is never zero, which would follow itself for ever, and
never beyond sixteen bits. -/
structure Generator where
  /-- The current value of the register. -/
  register : Nat
  /-- The register is not zero. -/
  positive : 0 < register
  /-- The register has sixteen bits. -/
  fits : register ≤ Register.top

namespace Generator

/-- Check that an integer can be a seed. -/
def requireSeed (seed : Int) : Requirement (0 < seed ∧ seed ≤ Register.top) :=
  if zero : seed = 0 then .violated .zeroSeed
  else if outside : seed < 0 ∨ Register.top < seed then .violated (.seedOutOfRange seed)
  else .met (by omega)

/-- A generator that starts from a seed. The seed is the register itself; the first value drawn is
the one after it. -/
def ofSeed (seed : Int) : Except Precondition Generator :=
  match requireSeed seed with
  | .met inside =>
    .ok
      { register := seed.toNat
        positive := by omega
        fits := by omega }
  | .violated cause => .error cause

/-- The generator that starts from the default seed. -/
def default : Generator :=
  { register := Register.defaultSeed
    positive := by decide
    fits := by decide }

/-- Step the register; the new value is the one drawn. -/
def next (generator : Generator) : Generator :=
  { register := Register.shifted generator.register
    positive := Register.shifted_pos generator.register generator.positive generator.fits
    fits := Register.shifted_le_top generator.register }

/-- Put the next values in front of values already drawn, the latest first. -/
def drawOnto (drawn : List Nat) : (count : Nat) → Generator → List Nat × Generator
  | 0, generator => (drawn, generator)
  | count + 1, generator => drawOnto (generator.next.register :: drawn) count generator.next

/-- The next values in the order in which they are drawn, and the generator afterwards. -/
def draw (generator : Generator) (count : Nat) : List Nat × Generator :=
  let (drawn, final) := drawOnto [] count generator
  (drawn.reverse, final)

/-- Draw as many values as an integer says; a negative number is refused, and the generator is as it
was. -/
def take (generator : Generator) (count : Int) : Except Precondition (List Nat × Generator) :=
  if count < 0 then .error (.negativeCount count) else .ok (generator.draw count.toNat)

/-- Start again from another seed. A refused seed leaves the generator as it is. -/
def reseed (_ : Generator) (seed : Int) : Except Precondition Generator :=
  ofSeed seed

end Generator

end SortBench
