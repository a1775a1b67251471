import SortBench.Fault.Basic
import SortBench.Register.Generator
import SortBench.Value.Document

/-!
# Program specifications

A program fills an array, from a literal list of values or from the shift register, and has
it sorted by at most one algorithm. A specification is data that nobody has checked yet: its
size may be negative or differ from the length of its literal, its source and its algorithm
may be unknown, and its seed may be no seed. What is wrong with it shows when the input is
built.

A literal may be *unsteady*: it then holds several lists, and each reading of it gives the
next of them, the last one from then on. Its length is that of the first list.
-/

namespace SortBench

/-- The literal values of a program. -/
structure Literal where
  /-- The values of the first reading. -/
  first : List Value
  /-- The values of the readings after the first; none if the literal is steady. -/
  later : List (List Value) := []
  deriving DecidableEq, Repr

namespace Literal

/-- The list that is reached after so many steps through the lists after a first one; the
last list is reached by any number of further steps. -/
def advance (first : List Value) : List (List Value) → Nat → List Value
  | _, 0 => first
  | [], _ => first
  | next :: later, steps + 1 => advance next later steps

/-- The values of a reading that has the given number of readings before it. A literal may read
differently each time; after its last list it gives this one again. -/
def reading (literal : Literal) (earlier : Nat) : List Value :=
  advance literal.first literal.later earlier

end Literal

/-- Where the values of a program come from. -/
inductive Source where
  /-- From its literal. -/
  | literal
  /-- From a generator that is started with its seed. -/
  | register
  deriving DecidableEq, Repr

/-- The source of a name. -/
def Source.ofName? (name : Text) : Option Source :=
  match name.string? with
  | some "literal" => some literal
  | some "lfsr" => some register
  | _ => none

/-- The specification of a program: a name, where its values come from and how many they are, and
the algorithm that sorts them, if any. -/
structure Spec where
  /-- The name of the program. -/
  name : Text
  /-- What the program does, in words. -/
  description : Text
  /-- The name of its source. -/
  source : Text
  /-- The declared number of values. -/
  size : Int
  /-- Its literal values, which count only for the literal source. -/
  literal : Literal := { first := [] }
  /-- The name of its algorithm, if it sorts at all. -/
  algorithm : Option Text := none
  /-- Its seed, which counts only for the register source. -/
  seed : Int := Register.defaultSeed
  deriving DecidableEq, Repr

namespace Spec

/-- The document of a specification. -/
def document (spec : Spec) : Json.Document :=
  .object
    [("name", .text spec.name), ("description", .text spec.description),
      ("source", .text spec.source), ("size", .integer spec.size),
      ("values", Value.documents spec.literal.first),
      ("algorithm", .ofText? spec.algorithm), ("seed", .integer spec.seed)]

/-- Whether building the input reads the literal: the source is the literal, and the literal
has the declared size. -/
def readsLiteral (spec : Spec) : Bool :=
  Source.ofName? spec.source == some .literal && (spec.literal.first.length : Int) == spec.size

/-- Build the input of the program when its literal was read so often before. -/
def input (spec : Spec) (earlier : Nat) : Except Precondition (List Value) :=
  match Source.ofName? spec.source with
  | some .literal =>
    if spec.literal.first.length = spec.size then .ok (spec.literal.reading earlier)
    else .error (.literalSize spec.name spec.size spec.literal.first.length)
  | some .register =>
    match Generator.ofSeed spec.seed with
    | .error cause => .error cause
    | .ok generator =>
      match generator.take spec.size with
      | .error cause => .error cause
      | .ok (drawn, _) => .ok (drawn.map fun (value : Nat) => .integer value)
  | none => .error (.unknownSource spec.source spec.name)

end Spec

end SortBench
