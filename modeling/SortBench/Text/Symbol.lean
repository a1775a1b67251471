/-!
# Symbols

A text from outside may hold half of a surrogate pair on its own, where it was sent in UTF-16
units, as escapes, or as bytes. Such a half is no character. A *symbol* is a character or
half of a pair.
-/

namespace SortBench.Text

/-- A symbol of a text. -/
inductive Symbol where
  /-- A character. -/
  | character (c : Char)
  /-- Half of a surrogate pair on its own. -/
  | half (unit : Nat)
  deriving DecidableEq, Repr

/-- A character is a symbol. -/
instance : Coe Char Symbol := ⟨.character⟩

namespace Symbol

/-- The number of a symbol: the code point of a character, or the unit of a half. -/
def number : Symbol → Nat
  | character c => c.toNat
  | half unit => unit

/-- The symbol of a number. -/
def ofNumber (number : Nat) : Symbol :=
  if number.isValidChar then character (Char.ofNat number) else half number

/-- The character of a symbol, if it is one. -/
def char? : Symbol → Option Char
  | character c => some c
  | half _ => none

/-- The character that a symbol is read as: the replacement character for a half, which is
like a half in that it is neither blank nor part of a numeral. -/
def legible : Symbol → Char
  | character c => c
  | half _ => '\uFFFD'

/-- Whether a symbol is a character of a class. -/
def isIn (among : Char → Bool) : Symbol → Bool
  | character c => among c
  | half _ => false

end Symbol

/-- The first half of a surrogate pair. -/
def isHigh (unit : Nat) : Bool :=
  0xD800 ≤ unit && unit < 0xDC00

/-- The second half of a surrogate pair. -/
def isLow (unit : Nat) : Bool :=
  0xDC00 ≤ unit && unit < 0xE000

/-- The code point that the two halves of a surrogate pair stand for. -/
def ofPair (high low : Nat) : Nat :=
  0x10000 + (high - 0xD800) * 0x400 + (low - 0xDC00)

end SortBench.Text
