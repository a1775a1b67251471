import SortBench.Numeral.Written
import SortBench.Text.Quoted

/-!
# Preconditions

Every operation has conditions on its arguments, and a violated condition is a cause with
the data that its text needs. A cause has a *rule*, the short name of the condition, and a
*detail*, the sentence that says how it was violated. A condition on integers is checked
exactly, whatever their size; but where one of them is too long to be written, there is no
sentence, and then what is raised in the end is no violated condition (see
`SortBench.Fault.raised`).

A *requirement* is the outcome of checking a condition: a proof that the condition holds, or
the cause of its violation. Operations that passed their requirements compute with the
proofs, so that no position outside the array can be addressed.
-/

namespace SortBench

/-- Why an operation refuses its arguments. Each cause holds the arguments that its text names. -/
inductive Precondition where
  /-- The seed is zero. -/
  | zeroSeed
  /-- The seed is not a register value. -/
  | seedOutOfRange (seed : Int)
  /-- A number of items is negative. -/
  | negativeSize (size : Int)
  /-- A number of items exceeds the length of the array. -/
  | sizeBeyondArray (size : Int) (length : Nat)
  /-- The low end of a range is negative. -/
  | negativeLow (low : Int)
  /-- The high end of a range is beyond the array. -/
  | highOutOfBounds (high : Int) (length : Nat)
  /-- A position is not one of the array. -/
  | indexOutOfBounds (index : Int) (length : Nat)
  /-- A range to partition is empty. -/
  | emptyRange (low high : Int)
  /-- A number of values to draw is negative. -/
  | negativeCount (count : Int)
  /-- No algorithm is registered under the name. -/
  | unknownAlgorithm (name : Text) (known : List Text)
  /-- A program does not hold as many literal values as it declares. -/
  | literalSize (program : Text) (declared : Int) (held : Nat)
  /-- A program has no known source of values. -/
  | unknownSource (source program : Text)
  /-- More values are to be drawn than the configuration allows. -/
  | countBeyondLimit (count limit : Int)
  /-- More values are given than the configuration allows. -/
  | valuesBeyondLimit (count : Nat) (limit : Int)
  /-- A condition that is stated by its rule and detail. -/
  | stated (rule detail : Text)
  deriving DecidableEq, Repr

namespace Precondition

/-- The short name of the violated condition. -/
def rule : Precondition → Text
  | zeroSeed => "nonzero_seed"
  | seedOutOfRange _ => "seed_range"
  | negativeSize _ => "size_non_negative"
  | sizeBeyondArray _ _ => "size_within_array"
  | negativeLow _ => "range_low"
  | highOutOfBounds _ _ => "range_high"
  | indexOutOfBounds _ _ => "index_bounds"
  | emptyRange _ _ => "partition_range"
  | negativeCount _ => "count_non_negative"
  | unknownAlgorithm _ _ => "algorithm"
  | literalSize _ _ _ => "literal_size"
  | unknownSource _ _ => "source"
  | countBeyondLimit _ _ => "max_size"
  | valuesBeyondLimit _ _ => "max_size"
  | stated rule _ => rule

/-- The sentence that says how the condition was violated, if its integers are written under
a limit. Integers that an operation was called with may have any size; the lengths of arrays
and of lists, and a limit of the settings, which is read from a text, never are too long. -/
def detail? (limit : Numeral.DigitLimit) : Precondition → Option Text
  | zeroSeed => some "Seed 0 is a fixed point of the register and yields zeros forever"
  | seedOutOfRange seed =>
    some ("Seed " ++ Numeral.hexadecimal seed ++ " does not fit in a 16-bit register")
  | negativeSize size => do
    let size ← Numeral.written? limit size
    return "Size must be >= 0, got " ++ size
  | sizeBeyondArray size length => do
    let size ← Numeral.written? limit size
    return "Size " ++ size ++ " exceeds array length " ++ Numeral.decimal length
  | negativeLow low => do
    let low ← Numeral.written? limit low
    return "low=" ++ low ++ " is negative"
  | highOutOfBounds high length => do
    let high ← Numeral.written? limit high
    return "high=" ++ high ++ " is out of bounds for array length " ++ Numeral.decimal length
  | indexOutOfBounds index length => do
    let index ← Numeral.written? limit index
    return "Index " ++ index ++ " is out of bounds for array length " ++ Numeral.decimal length
  | emptyRange low high => do
    let low ← Numeral.written? limit low
    let high ← Numeral.written? limit high
    return "Cannot partition an empty range low=" ++ low ++ ", high=" ++ high
  | negativeCount count => do
    let count ← Numeral.written? limit count
    return "Count must be >= 0, got " ++ count
  | unknownAlgorithm name known =>
    some
      ("Unknown algorithm " ++ Text.quoted name ++ ". Valid algorithms: " ++
        Text.quotedList known)
  | literalSize program declared held => do
    let declared ← Numeral.written? limit declared
    return "Program " ++ Text.quoted program ++ " declares size " ++ declared ++ " but has " ++
      Numeral.decimal held ++ " literal values"
  | unknownSource source program =>
    some ("Unknown source " ++ Text.quoted source ++ " for program " ++ Text.quoted program)
  | countBeyondLimit count most => do
    let count ← Numeral.written? limit count
    return "count=" ++ count ++ " exceeds FIXTURE_MAX_SIZE=" ++ Numeral.decimal most
  | valuesBeyondLimit count most =>
    some (Numeral.decimal count ++ " values exceed FIXTURE_MAX_SIZE=" ++ Numeral.decimal most)
  | stated _ detail => some detail

/-- The text of a violated condition under a limit: its rule in brackets, then its detail. -/
def message? (limit : Numeral.DigitLimit) (cause : Precondition) : Option Text :=
  (cause.detail? limit).map fun detail => "[PRECONDITION:" ++ cause.rule ++ "] " ++ detail

end Precondition

/-- The outcome of checking a condition: the proof that it is met, or the cause why it is not. -/
inductive Requirement (condition : Prop) where
  /-- The condition holds. -/
  | met (holds : condition)
  /-- The condition is violated, for the given cause. -/
  | violated (cause : Precondition)

/-- The cause of the violation, if the condition is violated. -/
def Requirement.cause? {condition : Prop} : Requirement condition → Option Precondition
  | met _ => none
  | violated cause => some cause

end SortBench
