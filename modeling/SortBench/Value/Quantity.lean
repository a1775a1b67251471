import SortBench.Numeral.Literal
import SortBench.Value.Basic

/-!
# Quantities

The exact quantity that a number stands for, whatever kind of number it is. Integers, truth
values and finite floating-point numbers are multiples of a power of two; comparing two of
them scales both to the lower power and compares integers, so no comparison rounds.
-/

namespace SortBench

/-- An exact number, one of the two infinities, or no number at all. -/
inductive Quantity where
  /-- The quantity of a value that is not a number. -/
  | undefined
  /-- Below every finite quantity. -/
  | bottom
  /-- Above every finite quantity. -/
  | top
  /-- The number `mantissa * 2 ^ exponent`. -/
  | dyadic (mantissa exponent : Int)
  deriving DecidableEq, Repr

namespace Quantity

/-- The integer `mantissa * 2 ^ (exponent - floor)`, for a floor not above the exponent. Quantities
are compared as such integers, without rounding. -/
def scaled (mantissa exponent floor : Int) : Int :=
  mantissa * Nat.pow 2 (exponent - floor).toNat

/-- The order of two quantities; an undefined quantity has no order with anything, not even
with itself. -/
def compare? : Quantity → Quantity → Option Ordering
  | undefined, _ => none
  | _, undefined => none
  | bottom, bottom => some .eq
  | bottom, _ => some .lt
  | _, bottom => some .gt
  | top, top => some .eq
  | top, _ => some .gt
  | _, top => some .lt
  | dyadic m e, dyadic n f =>
    some (if e = f then compare m n else compare (scaled m e (min e f)) (scaled n f (min e f)))

/-- Not greater; false when either side is undefined. -/
def le (a b : Quantity) : Bool :=
  match a.compare? b with
  | some order => order != .gt
  | none => false

/-- Greater; false when either side is undefined. -/
def gt (a b : Quantity) : Bool :=
  a.compare? b == some .gt

end Quantity

namespace Value

/-- The quantity of a number; texts, items and the absent value have none. -/
def quantity? : Value → Option Quantity
  | integer number => some (.dyadic number 0)
  | boolean truth => some (.dyadic (if truth then 1 else 0) 0)
  | real (.nan _) => some .undefined
  | real (.infinite negative) => some (if negative then .bottom else .top)
  | real (.finite negative mantissa exponent) =>
    some (.dyadic (Numeral.signed negative mantissa) exponent)
  | text _ => none
  | absent => none
  | item _ _ _ => none

end Value

end SortBench
