import SortBench.Text.Quoted

/-!
# Written integers

Integers are written in decimal, with a minus sign for the negative ones, and in messages
about the register also in hexadecimal with a leading marker. Neither form has leading
zeros, except where a fixed width is asked for.

Every integer has a decimal, but not every runtime writes it. Writing takes time that grows
faster than the number of digits, so a runtime may have a limit on them. The limit is a
setting of the runtime, 4300 unless somebody changed it, and no part of the program; its
author may not even know of it. An integer that comes from outside, and so may be of any
size, is therefore written under a limit and may be refused. Lengths of lists, positions in
them and counts of work are written as they are: nothing that lies in memory is so long that
its length had 4300 digits. Hexadecimal has no limit.
-/

namespace SortBench.Numeral

/-- The decimal digits of a natural number, without leading zeros. -/
def decimalDigits (number : Nat) : List Char :=
  Nat.toDigits 10 number

/-- The characters of an integer in decimal, whatever its size. -/
def decimalChars (number : Int) : List Char :=
  if number < 0 then '-' :: decimalDigits number.natAbs else decimalDigits number.natAbs

/-- An integer in decimal. -/
def decimal (number : Int) : String :=
  String.ofList (decimalChars number)

/-- An integer in hexadecimal, the sign before the marker. -/
def hexadecimal (number : Int) : String :=
  String.ofList
    ((if number < 0 then ['-'] else []) ++ '0' :: 'x' :: Text.hexDigits 1 number.natAbs)

/-- A register value in hexadecimal: the marker and at least four digits. -/
def registerHex (value : Nat) : String :=
  String.ofList ('0' :: 'x' :: Text.hexDigits 4 value)

/-- How many digits a decimal may have to be read or written by a runtime whose setting nobody
changed. -/
def mostDigits : Nat := 4300

/-- An integer that has no more digits than that. The sign does not count. -/
def IsShort (number : Int) : Prop :=
  (decimalDigits number.natAbs).length ≤ mostDigits

/-- Integers are short or not. -/
instance (number : Int) : Decidable (IsShort number) :=
  inferInstanceAs (Decidable (_ ≤ _))

/-- How many digits a runtime writes at most; nothing for a runtime that writes them all. -/
abbrev DigitLimit := Option Nat

/-- The limit of a runtime whose setting nobody changed. -/
def usualLimit : DigitLimit := some mostDigits

/-- Whether an integer is written under a limit. Every integer is, where there is no limit. -/
def IsWritten (limit : DigitLimit) (number : Int) : Prop :=
  ∀ most ∈ limit, (decimalDigits number.natAbs).length ≤ most

/-- Integers are written or not. -/
instance (limit : DigitLimit) (number : Int) : Decidable (IsWritten limit number) :=
  inferInstanceAs (Decidable (∀ most ∈ limit, _ ≤ most))

/-- An integer in decimal, if it is written under a limit. -/
def written? (limit : DigitLimit) (number : Int) : Option String :=
  if IsWritten limit number then some (decimal number) else none

/-- What a runtime says of an integer that it does not write. -/
def unwrittenText (most : Nat) : String :=
  "Exceeds the limit (" ++ decimal most ++
    " digits) for integer string conversion; use sys.set_int_max_str_digits() to increase the limit"

example : decimal (-120) = "-120" := by cbv
example : hexadecimal (-1) = "-0x1" := by cbv
example : registerHex 0x10 = "0x0010" := by cbv
example : written? (some 3) (-120) = some "-120" ∧ written? (some 2) (-120) = none := by
  decide +kernel

end SortBench.Numeral
