import SortBench.Fault.Precondition
import SortBench.Value.Conversion
import SortBench.Value.Order

/-!
# Faults

What can go wrong is a closed list of causes. Besides violated preconditions these are: a
result that is not a sorted permutation of its input, a refused comparison, a value without
an integer, a recursion that is too deep, an empty array that an algorithm needs a value of, a
number that was not given, a line that cannot be broken, two runs that differ, an unknown
program, an integer that is not written, and a failure that an algorithm states in its own
words.

A fault is raised with its text. A violated condition or a wrong result whose text has an
integer that the runtime does not write is therefore never raised: in its place the runtime
raises that it does not write the integer. An operation answers with the cause as it found it;
what its caller meets is that cause as it is *raised*.
-/

namespace SortBench

open Numeral (DigitLimit)

/-- How a result fails to be a sorted permutation of its input. -/
inductive Violation where
  /-- The values are not those of the input; the two numbers of values are recorded. -/
  | notPermutation (given returned : Nat)
  /-- The value at a position is greater than the next one. -/
  | descending (index : Nat) (left right : Value)
  /-- A violation that is stated by its rule and detail. -/
  | stated (rule detail : Text)
  deriving DecidableEq, Repr

namespace Violation

/-- The short name of the violated property. -/
def rule : Violation → Text
  | notPermutation _ _ => "permutation"
  | descending _ _ _ => "non_decreasing"
  | stated rule _ => rule

/-- The sentence that says how the property is violated, if the values in it are shown under a
limit. Only the sentence about two neighbours shows values. -/
def detail? (limit : DigitLimit) : Violation → Option Text
  | notPermutation given returned =>
    some
      ("Result is not a permutation of the input (" ++ Numeral.decimal given ++
        " values in, " ++ Numeral.decimal returned ++ " out)")
  | descending index left right => do
    let left ← left.shown? limit
    let right ← right.shown? limit
    return "result[" ++ Numeral.decimal index ++ "]=" ++ left ++ " > result[" ++
      Numeral.decimal (index + 1) ++ "]=" ++ right
  | stated _ detail => some detail

/-- The text of a violation under a limit: its rule in brackets, then its detail. -/
def message? (limit : DigitLimit) (violation : Violation) : Option Text :=
  (violation.detail? limit).map fun detail => "[INVARIANT:" ++ violation.rule ++ "] " ++ detail

end Violation

/-- The cause of a failure. -/
inductive Fault where
  /-- An operation refused its arguments. -/
  | precondition (cause : Precondition)
  /-- A result is not a sorted permutation of its input. -/
  | violation (cause : Violation)
  /-- A comparison was refused. -/
  | incomparable (clash : Clash)
  /-- A value has no integer. -/
  | conversion (cause : NotInteger)
  /-- A recursion went too deep. -/
  | exhausted (text : String)
  /-- An algorithm needed a value of an empty array; the text is its own. -/
  | emptyArray (text : String)
  /-- A number was needed where none was given; the text says for what. -/
  | noNumber (text : String)
  /-- An explanation of the arguments has a line that is too long and cannot be broken. -/
  | unbreakable
  /-- Two runs of a program returned results of different digests. -/
  | diverged (program expected actual : Text)
  /-- The catalog has no program of the name. -/
  | unknownProgram (name : Text) (known : List Text)
  /-- An integer has more digits than the runtime writes. -/
  | unwritten (most : Nat)
  /-- A failure that an algorithm states in its own words. -/
  | stated (words : Text)
  deriving DecidableEq, Repr

namespace Fault

/-- The text of a fault, if the integers in it are written under a limit. -/
def message? (limit : DigitLimit) : Fault → Option Text
  | precondition cause => cause.message? limit
  | violation cause => cause.message? limit
  | incomparable clash => some clash.message
  | conversion cause => some cause.message
  | exhausted text => some text
  | emptyArray text => some text
  | noNumber text => some text
  | unbreakable => some ""
  | diverged program expected actual =>
    some
      ("Determinism failure for program " ++ Text.quoted program ++ ": first run hash=" ++
        Text.quoted expected ++ ", second run hash=" ++ Text.quoted actual)
  | unknownProgram name known =>
    some
      ("Unknown program " ++ Text.quoted name ++ ". Valid programs: " ++ Text.quotedList known)
  | unwritten most => some (Numeral.unwrittenText most)
  | stated words => some words

/-- What is raised under a limit for a fault: the fault, if it has a text, and otherwise that
an integer is not written. Without a limit every fault has a text. -/
def raised (limit : DigitLimit) (fault : Fault) : Fault :=
  match limit with
  | none => fault
  | some most => if (fault.message? limit).isSome then fault else unwritten most

/-- The text of what is raised for a fault under the usual limit. -/
def message (fault : Fault) : Text :=
  (fault.message? Numeral.usualLimit).getD (Numeral.unwrittenText Numeral.mostDigits)

/-- The text that describes a failure by values, if they are shown under a limit: nothing for
none, the value itself for one, and the values between parentheses for more. -/
def describe? (limit : DigitLimit) : List Value → Option Text
  | [] => some ""
  | [.text content] => some content
  | [value] => (value.shown? limit).map Text.ofString
  | values => do
    let shown ← values.mapM (Value.shown? limit)
    return "(" ++ ", ".intercalate shown ++ ")"

/-- The failure that an algorithm states by values, in the words that describe them under the
usual limit. -/
def ofValues (values : List Value) : Fault :=
  match describe? Numeral.usualLimit values with
  | some words => stated words
  | none => unwritten Numeral.mostDigits

end Fault

end SortBench
