import SortBench.Numeral.Written
import SortBench.Text.Blank
import SortBench.Text.DecimalDigit

/-!
# Integer literals

A literal is one optional sign and a run of digits in which single underscores may separate
digits; padding may surround it, and decimal digits of any script stand for the ASCII ones.
A *decimal* literal has base ten and may have leading zeros. A *marked* literal chooses its
base by the marker `0x`, `0o` or `0b` in either case, one underscore being allowed after the
marker; without a marker it is decimal, and then it may start with a zero only when it is
zero altogether.

A decimal run of more than 4300 digits is not read, whatever follows it and however many of
the digits are leading zeros: reading has the limit of writing. Runs in the other bases may
have any length.
-/

namespace SortBench.Numeral

/-- Why a text is not read as an integer. -/
inductive Misread where
  /-- It is no literal. -/
  | malformed
  /-- It has a decimal run of so many digits, which are too many. -/
  | tooLong (digits : Nat)
  deriving DecidableEq, Repr

/-- The value of a digit in the given base, letters standing for ten and above. -/
def digit? (base : Nat) (c : Char) : Option Nat :=
  let value :=
    if '0' ≤ c && c ≤ '9' then c.toNat - 0x30
    else if 'a' ≤ c && c ≤ 'z' then c.toNat - 0x61 + 10
    else if 'A' ≤ c && c ≤ 'Z' then c.toNat - 0x41 + 10
    else base
  if value < base then some value else none

/-- The number that digits, the most significant first, stand for. -/
def ofDigits (base : Nat) (digits : List Nat) : Nat :=
  digits.foldl (fun value digit => value * base + digit) 0

/-- Continue a run after the digits read so far, the latest first: all its digits, and the
text after it. An underscore of the run must be followed by a digit. -/
def continueRun (base : Nat) (digits : List Nat) : List Char → Option (List Nat × List Char)
  | [] => some (digits.reverse, [])
  | '_' :: c :: rest =>
    match digit? base c with
    | some digit => continueRun base (digit :: digits) rest
    | none => none
  | c :: rest =>
    match digit? base c with
    | some digit => continueRun base (digit :: digits) rest
    | none => if c == '_' then none else some (digits.reverse, c :: rest)

/-- The digits of the run at the front of a text, at least one, and the text after it. -/
def readRun (base : Nat) : List Char → Option (List Nat × List Char)
  | [] => none
  | c :: rest =>
    match digit? base c with
    | some digit => continueRun base [digit] rest
    | none => none

/-- The value of a text that is one run of digits. A decimal run of more than 4300 digits is
refused, zeros in front included; in other bases there is no limit. -/
def readDigits (base : Nat) (text : List Char) : Except Misread Nat :=
  match readRun base text with
  | none => .error .malformed
  | some (digits, rest) =>
    if base = 10 ∧ mostDigits < digits.length then .error (.tooLong digits.length)
    else if rest.isEmpty then .ok (ofDigits base digits)
    else .error .malformed

/-- Split off one sign; the flag tells whether it was a minus. -/
def splitSign : List Char → Bool × List Char
  | '-' :: rest => (true, rest)
  | '+' :: rest => (false, rest)
  | text => (false, text)

/-- Attach a sign to a magnitude. -/
def signed (negative : Bool) (magnitude : Nat) : Int :=
  if negative then -(magnitude : Int) else magnitude

/-- The base chosen by the letter of a marker. -/
def markedBase? (letter : Char) : Option Nat :=
  if letter == 'x' || letter == 'X' then some 16
  else if letter == 'o' || letter == 'O' then some 8
  else if letter == 'b' || letter == 'B' then some 2
  else none

/-- Drop the one underscore that may follow a marker. -/
def dropUnderscore : List Char → List Char
  | '_' :: rest => rest
  | text => text

/-- The value of a decimal run that may only be zero. -/
def readZero (text : List Char) : Except Misread Nat :=
  match readDigits 10 text with
  | .ok 0 => .ok 0
  | .ok _ => .error .malformed
  | .error misread => .error misread

/-- The magnitude of a marked literal without its sign. -/
def readMarked : List Char → Except Misread Nat
  | '0' :: letter :: rest =>
    match markedBase? letter with
    | some base => readDigits base (dropUnderscore rest)
    | none => readZero ('0' :: letter :: rest)
  | digits => readDigits 10 digits

/-- Read a literal whose unsigned part is read by the given reader. Padding is dropped first and
digits of other scripts are turned into ASCII ones. -/
def readSigned (magnitude : List Char → Except Misread Nat) (text : Text) :
    Except Misread Int :=
  let body := (Text.trimWhile Text.isPadding text.legible).map Text.asciiDigit
  let (negative, digits) := splitSign body
  (magnitude digits).map (signed negative)

/-- The integer that a decimal literal denotes, with padding around it, a sign and single
underscores between digits. -/
def readDecimal (text : Text) : Except Misread Int :=
  readSigned (readDigits 10) text

/-- The integer that a literal with an optional base marker denotes. Without a marker it is decimal,
and then a zero in front is not allowed unless it is all zeros. -/
def readLiteral (text : Text) : Except Misread Int :=
  readSigned readMarked text

end SortBench.Numeral
