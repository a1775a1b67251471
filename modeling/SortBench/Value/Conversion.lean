import SortBench.Binary64.Basic
import SortBench.Numeral.Literal
import SortBench.Value.Basic

/-!
# Conversion to an integer

Integers and truth values convert as they are, floating-point numbers toward zero and
exactly, and texts when they are decimal literals. Everything else is refused with its
cause.
-/

namespace SortBench

/-- Why a value has no integer. -/
inductive NotInteger where
  /-- The text is no decimal literal. -/
  | unreadable (text : Text)
  /-- The text has a run of so many digits, which are too many. -/
  | tooLong (digits : Nat)
  /-- The value is not a number. -/
  | undefined
  /-- The number is infinite. -/
  | infinite
  /-- Values of this kind do not convert. -/
  | unsuitable (kind : String)
  deriving DecidableEq, Repr

/-- The text of a refused conversion. An unreadable text is shown by at most 200 characters,
its opening quote and its escapes included. -/
def NotInteger.message : NotInteger → String
  | unreadable text => "invalid literal for int() with base 10: " ++ Text.quotedUpTo 200 text
  | tooLong digits =>
    "Exceeds the limit (" ++ Numeral.decimal Numeral.mostDigits ++
      " digits) for integer string conversion: value has " ++ Numeral.decimal digits ++
      " digits; use sys.set_int_max_str_digits() to increase the limit"
  | undefined => "cannot convert float NaN to integer"
  | infinite => "cannot convert float infinity to integer"
  | unsuitable kind =>
    "int() argument must be a string, a bytes-like object or a real number, not '" ++ kind ++ "'"

/-- The integer that a value converts to. Fractions are cut off towards zero, and texts are read as
decimal literals. -/
def Value.toInteger : Value → Except NotInteger Int
  | integer number => .ok number
  | boolean truth => .ok (if truth then 1 else 0)
  | real (.nan _) => .error .undefined
  | real (.infinite _) => .error .infinite
  | real (.finite negative mantissa exponent) =>
    .ok (Binary64.truncated negative mantissa exponent)
  | text content =>
    match Numeral.readDecimal content with
    | .ok number => .ok number
    | .error .malformed => .error (.unreadable content)
    | .error (.tooLong digits) => .error (.tooLong digits)
  | absent => .error (.unsuitable absent.kind)
  | item label key tag => .error (.unsuitable (item label key tag).kind)

end SortBench
