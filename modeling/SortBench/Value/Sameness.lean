import SortBench.Value.Quantity

/-!
# Sameness of values

Two numbers are the same when their quantities are equal, whatever their kinds: one, true
and `1.0` are one value in three spellings, and the two zeros are the same. A value that is
not a number is the same as itself only, and so is a keyed item, whatever its key and tag.
Texts and the absent value are the same when they are equal. Sameness never fails; it is
equality of *marks*, the canonical forms below.
-/

namespace SortBench

/-- A canonical form of a value up to sameness. Two values are the same exactly when their marks are
equal, so sameness is an equality and needs no laws of its own. -/
inductive Mark where
  /-- The number `mantissa * 2 ^ exponent`, with an odd mantissa, or zero with exponent zero. -/
  | number (mantissa exponent : Int)
  /-- One of the two infinities. -/
  | infinite (negative : Bool)
  /-- An occurrence of a value that is not a number. -/
  | undefined (label : Nat)
  /-- A text. -/
  | text (content : Text)
  /-- The absent value. -/
  | absent
  /-- An occurrence of a keyed item. -/
  | item (label : Nat)
  deriving DecidableEq, Repr

namespace Mark

/-- The place of a kind of mark in the order of marks. -/
def rank : Mark → Nat
  | number _ _ => 0
  | infinite _ => 1
  | undefined _ => 2
  | text _ => 3
  | absent => 4
  | item _ => 5

/-- An order of marks: by kind, then by what the marks of a kind hold. It says nothing about
the order of the values. -/
def le : Mark → Mark → Bool
  | number m e, number n f => m < n || (m == n && e ≤ f)
  | infinite a, infinite b => !a || b
  | undefined a, undefined b => a ≤ b
  | text s, text t => !(t < s)
  | item a, item b => a ≤ b
  | a, b => a.rank ≤ b.rank

/-- Move factors of two from a positive magnitude into the exponent until it is odd. -/
def reduce (magnitude : Nat) (exponent : Int) : Nat × Int :=
  if 0 < magnitude ∧ magnitude % 2 = 0 then reduce (magnitude / 2) (exponent + 1)
  else (magnitude, exponent)
termination_by magnitude

/-- The mark of a finite quantity. -/
def ofDyadic (mantissa exponent : Int) : Mark :=
  if mantissa = 0 then number 0 0
  else
    let (magnitude, power) := reduce mantissa.natAbs exponent
    number (Numeral.signed (mantissa < 0) magnitude) power

end Mark

namespace Value

/-- The mark of a value. -/
def mark : Value → Mark
  | integer value => Mark.ofDyadic value 0
  | boolean truth => Mark.ofDyadic (if truth then 1 else 0) 0
  | real (.nan label) => .undefined label
  | real (.infinite negative) => .infinite negative
  | real (.finite negative mantissa exponent) =>
    Mark.ofDyadic (Numeral.signed negative mantissa) exponent
  | text content => .text content
  | absent => .absent
  | item label _ _ => .item label

/-- Whether two values are the same value, whatever their spelling. -/
def same (a b : Value) : Bool :=
  a.mark == b.mark

end Value

end SortBench
