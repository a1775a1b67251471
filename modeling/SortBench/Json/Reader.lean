import SortBench.Binary64.Rounding
import SortBench.Json.Document
import SortBench.Json.Quoted

/-!
# Reading documents

A document may be surrounded by spaces, tabs and line ends, and so may every part of it.
Besides the numbers of JSON the names of the infinities and of not-a-number are read. A text
that is no document fails at a place, counted in symbols from its start:

* where a document is missing, at the first symbol that cannot begin one;
* where a name, a colon or a comma is missing, at the symbol found in its place;
* after a complete document, at the first further symbol.

Whatever comes first in the text decides: a bad place, an integer of more than 4300 digits, or
a list or an object nested too deep.

Of several members with one name the last stays.
-/

namespace SortBench.Json

open Binary64 (digitsValue spanDigits)
open Text (Symbol)

/-- Drop spaces, tabs and line ends. -/
def skipSpace (text : List Symbol) : List Symbol :=
  text.dropWhile (Symbol.isIn fun c => c == ' ' || c == '\t' || c == '\n' || c == '\r')

/-- The digits before the fraction: a zero, or digits that do not start with one. -/
def readWhole : List Char → List Char × List Char
  | '0' :: rest => (['0'], rest)
  | text => spanDigits text

/-- The digits of a fraction. A point without a digit after it is not read. -/
def readFraction : List Char → List Char × List Char
  | '.' :: rest =>
    match spanDigits rest with
    | ([], _) => ([], '.' :: rest)
    | found => found
  | text => ([], text)

/-- The power of ten of an exponent. A letter without digits after it is not read. -/
def readExponent : List Char → Option Int × List Char
  | letter :: rest =>
    if letter == 'e' || letter == 'E' then
      let (negative, body) := Numeral.splitSign rest
      match spanDigits body with
      | ([], _) => (none, letter :: rest)
      | (digits, after) =>
        (some (Numeral.signed negative (digitsValue digits)), after)
    else (none, letter :: rest)
  | [] => (none, [])

/-- The parts of a number without its sign. -/
structure Magnitude where
  /-- The digits before the fraction. -/
  whole : List Char
  /-- The digits of the fraction; without a fraction there are none. -/
  fraction : List Char
  /-- The power of ten of the exponent, if there is one. -/
  power : Option Int

/-- Read the parts of a number without its sign. -/
def readMagnitude (text : List Char) : Option (Magnitude × List Char) :=
  match readWhole text with
  | ([], _) => none
  | (whole, rest) =>
    let (fraction, rest) := readFraction rest
    let (power, rest) := readExponent rest
    some ({ whole, fraction, power }, rest)

/-- The document of a number, if it does not have too many digits. -/
def Magnitude.document? (negative : Bool) (magnitude : Magnitude) : Option Document :=
  let { whole, fraction, power } := magnitude
  if fraction.isEmpty && power.isNone then
    if Numeral.mostDigits < whole.length then none
    else some (.integer (Numeral.signed negative (digitsValue whole)))
  else
    some
      (.real
        (Binary64.ofDecimal negative (digitsValue (whole ++ fraction))
          (power.getD 0 - fraction.length)))

/-- Whether a character may stand in a number. -/
def isNumberChar (c : Char) : Bool :=
  c.isDigit || c == '-' || c == '+' || c == '.' || c == 'e' || c == 'E'

/-- Read a number. Without fraction and exponent it is an integer, which must not have too many
digits; with either it is a floating-point number. -/
def readNumber (text : List Symbol) : Reading Document :=
  let run := (text.takeWhile (Symbol.isIn isNumberChar)).map Symbol.legible
  let negative := run.head? == some '-'
  match readMagnitude (if negative then run.drop 1 else run) with
  | none => .error (.unexpected text)
  | some (magnitude, left) =>
    match magnitude.document? negative with
    | none => .error .excessive
    | some document => .ok (document, text.drop (run.length - left.length))

/-- The documents that have names. -/
def names : List (Text × Document) :=
  [("null", .null), ("true", .boolean true), ("false", .boolean false), ("NaN", .real (.nan 0)),
    ("Infinity", .real (.infinite false)), ("-Infinity", .real (.infinite true))]

/-- Read one of several names at the front of a text. -/
def readName : (names : List (Text × Document)) → List Symbol → Option (Document × List Symbol)
  | [], _ => none
  | (name, document) :: others, text =>
    if name.symbols.isPrefixOf text then some (document, text.drop name.length)
    else readName others text

/-- Read a number or one of the names. -/
def readScalar (text : List Symbol) : Reading Document :=
  match readName names text with
  | some found => .ok found
  | none => readNumber text

/-- How deep lists and objects may be nested. -/
def deepestNesting : Nat := 950

/-- The members of an object with one more in front, which replaces one of its name. -/
def putMember (name : Text) (document : Document) (members : List (Text × Document)) :
    List (Text × Document) :=
  (name, document) :: members.filter fun member => member.1 != name

mutual

/-- Read a document in which lists and objects may be nested so many levels deep. A bracket is
one symbol and leads to two nested readings, each of which takes a unit of fuel; so one
unit more than two for each symbol is enough. -/
def readValue : (fuel levels : Nat) → List Symbol → Reading Document
  | 0, _, text => .error (.unexpected text)
  | fuel + 1, levels, text =>
    match text with
    | .character '"' :: rest =>
      match readString text rest with
      | .ok (content, rest) => .ok (.text content, rest)
      | .error failure => .error failure
    | .character '[' :: rest =>
      match levels with
      | 0 => .error .excessive
      | levels + 1 =>
        match skipSpace rest with
        | .character ']' :: rest => .ok (.array [], rest)
        | rest => readElements fuel levels [] rest
    | .character '\x7b' :: rest =>
      match levels with
      | 0 => .error .excessive
      | levels + 1 =>
        match skipSpace rest with
        | .character '\x7d' :: rest => .ok (.object [], rest)
        | rest => readMembers fuel levels [] rest
    | _ => readScalar text

/-- Read the elements of a list after those already read, the latest first. -/
def readElements : (fuel levels : Nat) → List Document → List Symbol → Reading Document
  | 0, _, _, text => .error (.unexpected text)
  | fuel + 1, levels, elements, text =>
    match readValue fuel levels text with
    | .error failure => .error failure
    | .ok (element, rest) =>
      match skipSpace rest with
      | .character ']' :: rest => .ok (.array (element :: elements).reverse, rest)
      | .character ',' :: rest => readElements fuel levels (element :: elements) (skipSpace rest)
      | rest => .error (.unexpected rest)

/-- Read the members of an object after those already read, the latest first. -/
def readMembers : (fuel levels : Nat) → List (Text × Document) → List Symbol → Reading Document
  | 0, _, _, text => .error (.unexpected text)
  | fuel + 1, levels, members, text =>
    match text with
    | .character '"' :: rest =>
      match readString text rest with
      | .error failure => .error failure
      | .ok (name, rest) =>
        match skipSpace rest with
        | .character ':' :: rest =>
          match readValue fuel levels (skipSpace rest) with
          | .error failure => .error failure
          | .ok (document, rest) =>
            let members := putMember name document members
            match skipSpace rest with
            | .character '\x7d' :: rest => .ok (.object members.reverse, rest)
            | .character ',' :: rest => readMembers fuel levels members (skipSpace rest)
            | rest => .error (.unexpected rest)
        | rest => .error (.unexpected rest)
    | text => .error (.unexpected text)

end

/-- Why a text is not read as a document. -/
inductive Unread where
  /-- It is no document; the place of the failure is given. -/
  | misplaced (index : Nat)
  /-- It goes beyond what is read. -/
  | excessive
  deriving DecidableEq, Repr

/-- Read a text that is one document in which lists and objects are nested at most so many levels
deep. What stands around the document may be space only. -/
def readWithin (levels : Nat) (text : Text) : Except Unread Document :=
  match readValue (2 * text.length + 1) levels (skipSpace text.symbols) with
  | .error (.unexpected place) => .error (.misplaced (text.length - place.length))
  | .error .excessive => .error .excessive
  | .ok (document, rest) =>
    match skipSpace rest with
    | [] => .ok document
    | rest => .error (.misplaced (text.length - rest.length))

/-- Read a text that is one document. -/
def read (text : Text) : Except Unread Document :=
  readWithin deepestNesting text

end SortBench.Json
