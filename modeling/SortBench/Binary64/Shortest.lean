import SortBench.Binary64.Basic
import SortBench.Numeral.Written

/-!
# Shortest decimal text

A finite number is written with the fewest significant digits that read back as the same
number, and among those with the digits nearest to it. The real numbers that round to a
mantissa `m` reach half a unit to either side, a quarter of a unit below a power of two, and
include the two ends exactly when `m` is even.

The text is positional, with at least one digit after the point, when the first significant
digit stands between the fourth place after the point and the sixteenth before it; otherwise
it has one digit before the point and an exponent of at least two digits.
-/

namespace SortBench.Binary64

/-- A positive number as a fraction: four times the mantissa over four, so that the ends of
its rounding interval have the same denominator. -/
structure Neighbourhood where
  /-- The numerator of the number. -/
  centre : Nat
  /-- The numerator of the lower end. -/
  lower : Nat
  /-- The numerator of the upper end. -/
  upper : Nat
  /-- The common denominator. -/
  unit : Nat
  /-- Whether the ends belong to the interval. -/
  closed : Bool

/-- The rounding interval of `mantissa * 2 ^ exponent`. -/
def neighbourhood (mantissa : Nat) (exponent : Int) : Neighbourhood :=
  let factor := if 0 ≤ exponent then Nat.pow 2 exponent.toNat else 1
  let below := if mantissa == leastNormal && -1074 < exponent then 1 else 2
  { centre := 4 * mantissa * factor
    lower := (4 * mantissa - below) * factor
    upper := (4 * mantissa + 2) * factor
    unit := if 0 ≤ exponent then 4 else 4 * Nat.pow 2 (-exponent).toNat
    closed := mantissa % 2 == 0 }

/-- Whether a decimal, given as a fraction, lies in the interval. -/
def Neighbourhood.holds (near : Neighbourhood) (numerator denominator : Nat) : Bool :=
  let point := numerator * near.unit
  let low := near.lower * denominator
  let high := near.upper * denominator
  (low < point && point < high) || (near.closed && (point == low || point == high))

/-- The grid of decimals with step `10 ^ power`, as a factor over a divisor. -/
def gridStep (power : Int) : Nat × Nat :=
  if 0 ≤ power then (Nat.pow 10 power.toNat, 1) else (1, Nat.pow 10 (-power).toNat)

/-- The multiple of the grid step that lies in the interval and is nearest to the number, if
one of its two neighbours on the grid does. -/
def Neighbourhood.onGrid? (near : Neighbourhood) (power : Int) : Option Nat :=
  let (factor, divisor) := gridStep power
  let below := near.centre * divisor / (near.unit * factor)
  let remainder := near.centre * divisor % (near.unit * factor)
  let lowHolds := near.holds (below * factor) divisor
  let highHolds := near.holds ((below + 1) * factor) divisor
  match lowHolds, highHolds with
  | true, true =>
    if 2 * remainder < near.unit * factor ||
        (2 * remainder == near.unit * factor && below % 2 == 0) then some below
    else some (below + 1)
  | true, false => some below
  | false, true => some (below + 1)
  | false, false => none

/-- The power of ten just above a positive fraction: at least it, up to one more. -/
def decimalMagnitude (numerator denominator : Nat) : Int :=
  if denominator ≤ numerator then (Nat.toDigits 10 (numerator / denominator)).length
  else
    let inverse := (Nat.toDigits 10 (denominator / numerator)).length
    if numerator * Nat.pow 10 (inverse - 1) == denominator then 2 - (inverse : Int)
    else 1 - (inverse : Int)

/-- Try grids of one more digit each time, for at most `tries` grids. -/
def searchGrids (near : Neighbourhood) (power : Int) : (tries : Nat) → Nat × Int
  | 0 => (near.centre / near.unit, 0)
  | tries + 1 =>
    match near.onGrid? power with
    | some multiple => (multiple, power)
    | none => searchGrids near (power - 1) tries

/-- The shortest digits of a positive number and the power of ten of the last of them. Among the
decimals of the fewest digits that are read back as the number, it is the nearest. -/
def shortest (mantissa : Nat) (exponent : Int) : Nat × Int :=
  let near := neighbourhood mantissa exponent
  searchGrids near (decimalMagnitude near.centre near.unit) 20

/-- Drop trailing zeros from digits. -/
def dropZeros (digits : List Char) : List Char :=
  (digits.reverse.dropWhile (· == '0')).reverse

/-- Write significant digits whose first stands at the given place: place one is the unit,
place zero the first after the point. -/
def layout (digits : List Char) (place : Int) : List Char :=
  if -4 < place && place ≤ 16 then
    if place ≤ 0 then
      '0' :: '.' :: List.replicate (-place).toNat '0' ++ digits
    else
      let whole := place.toNat
      let fraction := digits.drop whole
      digits.take whole ++ List.replicate (whole - digits.length) '0' ++
        '.' :: (if fraction.isEmpty then ['0'] else fraction)
  else
    let power := place - 1
    let magnitude := Numeral.decimalDigits power.natAbs
    digits.take 1 ++ (if digits.length ≤ 1 then [] else '.' :: digits.drop 1) ++
      'e' :: (if power < 0 then '-' else '+') ::
        List.replicate (2 - magnitude.length) '0' ++ magnitude

/-- The text of a finite number without its sign. -/
def magnitudeText (mantissa : Nat) (exponent : Int) : List Char :=
  if mantissa == 0 then ['0', '.', '0']
  else
    let (multiple, power) := shortest mantissa exponent
    let digits := Numeral.decimalDigits multiple
    layout (dropZeros digits) (digits.length + power)

/-- The text of a number. -/
def text : Binary64 → String
  | nan _ => "nan"
  | infinite negative => if negative then "-inf" else "inf"
  | finite negative mantissa exponent =>
    String.ofList ((if negative then ['-'] else []) ++ magnitudeText mantissa exponent)

end SortBench.Binary64
