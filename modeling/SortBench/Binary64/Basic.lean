/-!
# Binary floating-point numbers

A finite number is a sign, a mantissa and a power of two, so that comparison and truncation
are exact integer computations and nothing is rounded once a number exists. A number made by
rounding has a mantissa below `2 ^ 53`, an exponent of at least `-1074`, and a mantissa of at
least `2 ^ 52` unless the exponent is `-1074`.

A value that is not a number carries a label. It is unequal to every number, and it is the
same as another such value only when the two have one label; moving a value keeps its label.
-/

namespace SortBench

/-- A floating-point number: not a number, an infinity, or a signed multiple of a power of
two. Zero keeps its sign. -/
inductive Binary64 where
  /-- Not a number; the label tells one occurrence from another. -/
  | nan (label : Nat)
  /-- One of the two infinities. -/
  | infinite (negative : Bool)
  /-- The number `± mantissa * 2 ^ exponent`. -/
  | finite (negative : Bool) (mantissa : Nat) (exponent : Int)
  deriving DecidableEq, Repr

namespace Binary64

/-- The least mantissa of 53 bits. -/
def leastNormal : Nat := 0x10000000000000

/-- The integer nearest to a finite number on the side of zero. -/
def truncated (negative : Bool) (mantissa : Nat) (exponent : Int) : Int :=
  let magnitude : Nat :=
    if 0 ≤ exponent then mantissa * Nat.pow 2 exponent.toNat
    else mantissa / Nat.pow 2 (-exponent).toNat
  if negative then -(magnitude : Int) else magnitude

end Binary64

end SortBench
