import SortBench.Numeral.Literal

/-!
# Leniently read integers

A *plain* integer is an optional minus sign and ASCII digits without a leading zero. More than 4300
digits are too many. A lenient reading tidies a text that is not plain and reads it once more as
plain:

* padding around it is dropped, and one plus sign in front, unless a minus sign follows;
* zeros in front, or after one minus sign in front, are dropped, with underscores among them, up to
  a digit, a minus sign or a point; of zeros alone the last one stays;
* a point with zeros, at least one, and nothing else after it is dropped with them;
* underscores are dropped if none of them is the first character, the last, or next to another.

That a text has too many digits is only noticed before it is tidied; afterwards it is no integer at
all.

These are the integers that the library pydantic reads from texts in its lax mode, with the limit of
4300 digits that it has of its own; it happens to be the usual limit of the runtime. Only the posted
fields of a request are read in this way. Arguments and variables go through the literals of
`SortBench.Numeral.Literal`, which have rules of their own for zeros in front and take the digits
of every script.
-/

namespace SortBench.Numeral

/-- Whether a character is an ASCII digit other than zero. -/
def isLeadingDigit (c : Char) : Bool :=
  '1' ≤ c && c ≤ '9'

/-- Read a plain integer. Too many digits are noticed before anything that follows them, so a long
run of digits with a letter behind it is too long and not malformed. -/
def readPlain (text : List Char) : Except Misread Int :=
  let negative := text.head? == some '-'
  let body := if negative then text.drop 1 else text
  match body with
  | [] => .error .malformed
  | ['0'] => .ok 0
  | c :: _ =>
    if isLeadingDigit c then
      let run := body.takeWhile Char.isDigit
      if mostDigits < run.length then .error (.tooLong run.length)
      else if run.length = body.length then
        .ok (signed negative (ofDigits 10 (run.filterMap (digit? 10))))
      else .error .malformed
    else .error .malformed

/-- Drop further zeros after a character that was dropped or may still have to stay. The last of
them stays where nothing else would be left in front of the point or the end. -/
def dropZeros (last : Char) : List Char → Option (List Char)
  | [] => some [last]
  | c :: rest =>
    if c == '0' || c == '_' then dropZeros c rest
    else if isLeadingDigit c || c == '-' then some (c :: rest)
    else if c == '.' then some (last :: c :: rest)
    else none

/-- Drop zeros in front of a magnitude; a text that begins with anything but a digit or a
minus sign is refused. -/
def dropMagnitudeZeros : List Char → Option (List Char)
  | [] => none
  | c :: rest =>
    if c == '0' then dropZeros c rest
    else if isLeadingDigit c || c == '-' then some (c :: rest)
    else none

/-- Drop zeros in front, or after one minus sign in front. -/
def dropLeadingZeros : List Char → Option (List Char)
  | '-' :: rest => (dropMagnitudeZeros rest).map ('-' :: ·)
  | text => dropMagnitudeZeros text

/-- Drop a plus sign in front; it must not be followed by a minus sign. -/
def dropPlus : List Char → Option (List Char)
  | '+' :: '-' :: _ => none
  | '+' :: rest => some rest
  | text => some text

/-- Drop a point with nothing but zeros after it. -/
def dropFraction (text : List Char) : List Char :=
  match text.dropWhile (· != '.') with
  | _ :: zero :: zeros =>
    if (zero :: zeros).all (· == '0') then text.takeWhile (· != '.') else text
  | _ => text

/-- Whether two neighbouring characters are both underscores. -/
def hasDoubleUnderscore : List Char → Bool
  | c :: d :: rest => (c == '_' && d == '_') || hasDoubleUnderscore (d :: rest)
  | _ => false

/-- Drop underscores where all of them are allowed. -/
def dropUnderscores (text : List Char) : List Char :=
  if text.head? == some '_' || text.getLast? == some '_' || hasDoubleUnderscore text then text
  else text.filter (· != '_')

/-- Tidy a text that is not plain. -/
def tidied (text : List Char) : Option (List Char) :=
  ((dropPlus (Text.trimWhile Text.isPadding text)).bind dropLeadingZeros).map fun body =>
    dropUnderscores (dropFraction body)

/-- Read an integer leniently: as a plain one if it is plain, and otherwise after it was tidied. It
is tidied once, and what is not plain then is refused. -/
def readLenient (text : Text) : Except Misread Int :=
  match readPlain text.legible with
  | .error .malformed =>
    match (tidied text.legible).map readPlain with
    | some (.ok number) => .ok number
    | _ => .error .malformed
  | outcome => outcome

end SortBench.Numeral
