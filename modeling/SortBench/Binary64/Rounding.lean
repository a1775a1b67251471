import SortBench.Binary64.Basic
import SortBench.Numeral.Literal

/-!
# Rounding a decimal to a floating-point number

The nearest floating-point number of an exact quotient, a tie going to the even mantissa. A
quotient that rounds beyond the largest finite number becomes infinite, and one that rounds
below the smallest becomes a signed zero.
-/

namespace SortBench.Binary64

/-- The nearest integer to a quotient, a tie going to the even one. -/
def nearestEven (numerator denominator : Nat) : Nat :=
  let quotient := numerator / denominator
  let twice := 2 * (numerator % denominator)
  if twice < denominator || (twice == denominator && quotient % 2 == 0) then quotient
  else quotient + 1

/-- The quotient of a fraction by a power of two, as numerator and denominator. -/
def unscale (numerator denominator : Nat) (exponent : Int) : Nat × Nat :=
  if 0 ≤ exponent then (numerator, denominator * Nat.pow 2 exponent.toNat)
  else (numerator * Nat.pow 2 (-exponent).toNat, denominator)

/-- The exponent under which a positive fraction has a mantissa of 53 bits, or the least
exponent if that is larger. -/
def mantissaExponent (numerator denominator : Nat) : Int :=
  let low : Int := (numerator.log2 : Int) - denominator.log2 - 53
  let (top, bottom) := unscale numerator denominator low
  max (if 2 * leastNormal ≤ top / bottom then low + 1 else low) (-1074)

/-- Round a positive fraction to the nearest floating-point number, a tie going to the even
mantissa; what is too large becomes an infinity. -/
def ofFraction (negative : Bool) (numerator denominator : Nat) : Binary64 :=
  let exponent := mantissaExponent numerator denominator
  let (top, bottom) := unscale numerator denominator exponent
  let mantissa := nearestEven top bottom
  let (mantissa, exponent) :=
    if mantissa == 2 * leastNormal then (leastNormal, exponent + 1) else (mantissa, exponent)
  if 971 < exponent then infinite negative else finite negative mantissa exponent

/-- Round `± digits * 10 ^ power`. Powers so large or so small that the result is certain are
decided without computing them. -/
def ofDecimal (negative : Bool) (digits : Nat) (power : Int) : Binary64 :=
  let magnitude : Int := (Nat.toDigits 10 digits).length + power
  if digits == 0 || magnitude < -330 then finite negative 0 (-1074)
  else if 310 < magnitude then infinite negative
  else if 0 ≤ power then ofFraction negative (digits * Nat.pow 10 power.toNat) 1
  else ofFraction negative digits (Nat.pow 10 (-power).toNat)

/-- The digits at the front of a text, and the rest. -/
def spanDigits (text : List Char) : List Char × List Char :=
  (text.takeWhile Char.isDigit, text.dropWhile Char.isDigit)

/-- The value of a run of ASCII digits; an empty run is zero. -/
def digitsValue (digits : List Char) : Nat :=
  Numeral.ofDigits 10 (digits.filterMap (Numeral.digit? 10))

/-- The power of ten after an exponent letter: an optional sign and at least one digit, up to
the end of the text. -/
def readPower (text : List Char) : Option Int :=
  let (negative, digits) := Numeral.splitSign text
  if !digits.isEmpty && digits.all Char.isDigit then
    some (Numeral.signed negative (digitsValue digits))
  else
    none

/-- Read a decimal number with an optional fraction and exponent, or one of the names of the
infinities and of not-a-number. The label is given to a value that is not a number. -/
def read? (label : Nat) (text : String) : Option Binary64 :=
  let (negative, body) := Numeral.splitSign text.toList
  match String.ofList body with
  | "nan" => some (nan label)
  | "inf" => some (infinite negative)
  | _ =>
    let (whole, rest) := spanDigits body
    let (fraction, rest) :=
      match rest with
      | '.' :: after => spanDigits after
      | _ => ([], rest)
    if whole.isEmpty && fraction.isEmpty then none
    else
      let power? :=
        match rest with
        | [] => some 0
        | letter :: after => if letter == 'e' || letter == 'E' then readPower after else none
      power?.map fun power =>
        ofDecimal negative (digitsValue (whole ++ fraction)) (power - fraction.length)

end SortBench.Binary64
