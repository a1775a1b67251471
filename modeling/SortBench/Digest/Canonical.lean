import SortBench.Digest.Sha256
import SortBench.Fault.Basic

/-!
# Canonical text and digest

Lists of values are compared through one text: the integers that the values convert to, in
decimal and in order, between square brackets and separated by commas, without any space.
The digest of a list is the SHA-256 digest of that text.

A list may have neither. A value that does not convert gives the cause, the first one if there
are several; and an integer that the runtime does not write, under its usual limit, gives
another one, after all values were converted. The limit concerns integers only: a text that
converts has no more digits than are read, and no floating-point number is as large.
-/

namespace SortBench.Canonical

/-- The integers that values convert to. The first value that does not convert decides why there are
none. -/
def integers (values : List Value) : Except NotInteger (List Int) :=
  values.mapM Value.toInteger

/-- The decimal numerals of integers, separated by commas. -/
def joined (numbers : List Int) : List Char :=
  [','].intercalate (numbers.map Numeral.decimalChars)

/-- The canonical characters of a list of integers. They are defined for integers of any size;
whether they are written is asked separately. -/
def chars (numbers : List Int) : List Char :=
  '[' :: joined numbers ++ [']']

/-- The canonical characters of a list of values, if all of them convert to integers and these
are written. -/
def writtenChars (values : List Value) : Except Fault (List Char) :=
  match integers values with
  | .error cause => .error (.conversion cause)
  | .ok numbers =>
    if ∀ number ∈ numbers, Numeral.IsShort number then .ok (chars numbers)
    else .error (.unwritten Numeral.mostDigits)

/-- The canonical text of a list of values, if all of them convert and their integers are
written. -/
def text (values : List Value) : Except Fault String :=
  (writtenChars values).map String.ofList

/-- The digest of a canonical text, whose characters are all ASCII. -/
def digestOfChars (canonical : List Char) : String :=
  Sha256.hex (canonical.map fun c => c.toNat.toUInt8)

/-- The digest of a list of values: the one by which inputs and outputs of programs are compared. -/
def digest (values : List Value) : Except Fault String :=
  (writtenChars values).map digestOfChars

end SortBench.Canonical
