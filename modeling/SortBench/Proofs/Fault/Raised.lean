import Mathlib.Logic.Basic
import SortBench.Fault.Basic

/-!
# What is raised for a cause

An operation answers with the cause of its failure, and its caller meets what is raised for it.
The two differ in one case only. The text of a violated condition or of a wrong result names
integers that the caller brought along, of any size; under a limit on digits there may be no such
text, and then the runtime raises an error of its own. No other cause has such integers, lengths
and positions are never too long, and without a limit every cause is raised as it is.
-/

namespace SortBench

namespace Numeral

variable {limit : DigitLimit} {number : Int}

theorem isWritten_none (number : Int) : IsWritten none number :=
  nofun

/-- Under the usual limit the short integers are written, and no others. Statements about what a
caller meets are therefore put in terms of shortness, which is a bound on a number and says nothing
of texts. -/
theorem isWritten_usualLimit : IsWritten usualLimit number ↔ IsShort number := by
  simp [IsWritten, usualLimit, IsShort]

/-- The partial decimal is defined exactly on the integers that are written, so it can be exchanged
for a condition on the integer wherever only its presence matters. -/
theorem isSome_written? : (written? limit number).isSome = true ↔ IsWritten limit number := by
  unfold written?
  split <;> simp_all

end Numeral

open Numeral (DigitLimit IsWritten IsShort usualLimit mostDigits)

variable {limit : DigitLimit}

namespace Precondition

/-- The integers that the text of a violated condition names and that may have any size. Lengths and
positions of arrays are left out, since no array is long enough to matter. -/
def numbers : Precondition → List Int
  | negativeSize size => [size]
  | sizeBeyondArray size _ => [size]
  | negativeLow low => [low]
  | highOutOfBounds high _ => [high]
  | indexOutOfBounds index _ => [index]
  | emptyRange low high => [low, high]
  | negativeCount count => [count]
  | literalSize _ declared _ => [declared]
  | countBeyondLimit count _ => [count]
  | _ => []

/-- A violated condition has a text exactly where these integers are written. Each kind of condition
is a case of its own, as each names other integers. -/
theorem isSome_message? (cause : Precondition) :
    (cause.message? limit).isSome = true ↔ ∀ number ∈ cause.numbers, IsWritten limit number := by
  cases cause with
  | emptyRange low high =>
    -- Of two integers the second is looked at only if the first is written.
    cases first : Numeral.written? limit low <;>
      simp [message?, detail?, numbers, ← Numeral.isSome_written?, Option.isSome_bind, first]
  | _ => simp [message?, detail?, numbers, ← Numeral.isSome_written?, Option.isSome_bind]

end Precondition

namespace Violation

/-- The integer that a value is shown with, if it is shown with one: an integer with itself, and an
item with its key. All other values are shown without any. -/
def shownNumber? : Value → Option Int
  | .integer number => some number
  | .item _ key _ => some key
  | _ => none

/-- The integers that the text of a violation names and that may have any size. -/
def numbers : Violation → List Int
  | descending _ left right => (shownNumber? left).toList ++ (shownNumber? right).toList
  | _ => []

/-- A value is shown exactly where its integer is written. A value without an integer is always
shown, whatever the limit. -/
theorem isSome_shown? (value : Value) :
    (value.shown? limit).isSome = true ↔
      ∀ number ∈ shownNumber? value, IsWritten limit number := by
  cases value with
  | item label key tag =>
    cases shown : Numeral.written? limit key <;>
      simp [Value.shown?, shownNumber?, ← Numeral.isSome_written?, shown]
  | _ => simp [Value.shown?, shownNumber?, ← Numeral.isSome_written?]

/-- A violation has a text exactly where these integers are written. Only the one about the order of
two neighbours names any; the others have their text under every limit. -/
theorem isSome_message? (cause : Violation) :
    (cause.message? limit).isSome = true ↔ ∀ number ∈ cause.numbers, IsWritten limit number := by
  cases cause with
  | descending index left right =>
    have both : ((Violation.descending index left right).message? limit).isSome = true ↔
        (left.shown? limit).isSome = true ∧ (right.shown? limit).isSome = true := by
      cases first : left.shown? limit <;> cases second : right.shown? limit <;>
        simp [message?, detail?, first, second]
    rw [both, isSome_shown?, isSome_shown?]
    simp [numbers, or_imp, forall_and]
  | notPermutation given returned => simp [message?, detail?, numbers]
  | stated rule detail => simp [message?, detail?, numbers]

end Violation

namespace Fault

/-- The integers that the text of a cause names and that may have any size. -/
def numbers : Fault → List Int
  | precondition cause => cause.numbers
  | violation cause => cause.numbers
  | _ => []

/-- A cause has a text exactly where these integers are written. This is the one fact about texts
that is needed below: whether a cause can be stated is a question about integers only. -/
theorem isSome_message? (fault : Fault) :
    (fault.message? limit).isSome = true ↔ ∀ number ∈ fault.numbers, IsWritten limit number := by
  cases fault with
  | precondition cause => exact cause.isSome_message?
  | violation cause => exact cause.isSome_message?
  | _ => simp [message?, numbers]

/-- What is raised under a limit: the cause itself where all these integers are written, and in
every other case that one of them is not. Nothing else is ever raised, whichever integers are too
long and however many of them. -/
theorem raised_some (most : Nat) (fault : Fault) :
    fault.raised (some most) =
      if ∀ number ∈ fault.numbers, IsWritten (some most) number then fault
      else .unwritten most := by
  unfold raised
  simp only [isSome_message?]

/-- The same under the usual limit, where being written is being short. -/
theorem raised_usual (fault : Fault) :
    fault.raised usualLimit =
      if ∀ number ∈ fault.numbers, IsShort number then fault else .unwritten mostDigits := by
  have written : (∀ number ∈ fault.numbers, IsWritten (some mostDigits) number) ↔
      ∀ number ∈ fault.numbers, IsShort number :=
    forall₂_congr fun number _ => Numeral.isWritten_usualLimit
  rw [usualLimit, raised_some]
  exact if_congr written rfl rfl

/-- A cause that names only integers that are written is raised as it is. This is how a statement
about what was found becomes one about what the caller meets. -/
theorem raised_of_written {fault : Fault}
    (written : ∀ number ∈ fault.numbers, IsWritten limit number) : fault.raised limit = fault := by
  cases limit with
  | none => rfl
  | some most => rw [raised_some, if_pos written]

@[simp]
theorem raised_of_numbers_eq_nil {fault : Fault} (none : fault.numbers = []) :
    fault.raised limit = fault :=
  raised_of_written (by simp [none])

/-- Whatever is raised, unless it is that an integer is not written, is raised for itself, and its
integers are written. So a caller that meets a refusal meets the one that was found, and no limit
turns one refusal into another. -/
theorem raised_eq_iff {fault other : Fault} (stated : ∀ most, other ≠ unwritten most) :
    fault.raised limit = other ↔
      fault = other ∧ ∀ number ∈ fault.numbers, IsWritten limit number := by
  cases limit with
  | none => simp [raised, Numeral.isWritten_none]
  | some most =>
    rw [raised_some]
    split
    case isTrue written => exact (and_iff_left written).symm
    case isFalse unwritten =>
      exact iff_of_false (fun raised => stated most raised.symm) fun both => unwritten both.2

/-- A violated condition is met for a violated condition only. In particular a caller that tells
violated conditions from other failures is never misled by the limit; it may only miss one. -/
theorem raised_eq_precondition_iff {cause other : Precondition} :
    (precondition cause).raised limit = precondition other ↔
      cause = other ∧ ∀ number ∈ cause.numbers, IsWritten limit number := by
  rw [raised_eq_iff (fun _ stated => by cases stated), precondition.injEq]
  rfl

/-- A wrong result is met for a wrong result only, so what is reported as wrong was found to be
wrong. -/
theorem raised_eq_violation_iff {cause other : Violation} :
    (violation cause).raised limit = violation other ↔
      cause = other ∧ ∀ number ∈ cause.numbers, IsWritten limit number := by
  rw [raised_eq_iff (fun _ stated => by cases stated), violation.injEq]
  rfl

/-- That an integer is not written is met where an integer of the cause is not, and there it is
always met. -/
theorem raised_eq_unwritten_iff {cause : Violation} {most : Nat} :
    (violation cause).raised (some most) = unwritten most ↔
      ¬ ∀ number ∈ cause.numbers, IsWritten (some most) number := by
  rw [raised_some]
  split
  case isTrue written => exact iff_of_false nofun (not_not_intro written)
  case isFalse unwritten => exact iff_of_true rfl unwritten

/-- Under the usual limit, a cause that names only short integers is raised as it is. Integers that
were read from a text are short, so on the command line and in the service this is the usual
case. -/
theorem raised_of_short {fault : Fault} (short : ∀ number ∈ fault.numbers, IsShort number) :
    fault.raised usualLimit = fault := by
  rw [raised_usual, if_pos short]

end Fault

end SortBench
