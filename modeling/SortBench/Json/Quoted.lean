import SortBench.Numeral.Literal
import SortBench.Text.Basic

/-!
# Strings of documents

The symbols of a string up to its closing quote. An escape stands for one character, or gives
one UTF-16 unit in hexadecimal. The escapes of the two halves of a surrogate pair, one directly
after the other, stand for one character. Any other half, escaped or not, stays as it is.

A reader answers with what it read and the rest of the text. It fails with the rest from the
place on where the text is no document: for a string without closing quote this place is the
opening quote, for a bad escape its backslash, and for a bad unit the letter before its
digits. It also fails on a document that goes beyond what is read.
-/

namespace SortBench.Json

open Text (Symbol)

/-- Why reading failed. -/
inductive Failure where
  /-- The text is no document; the rest from the place of the failure on is given. -/
  | unexpected (rest : List Symbol)
  /-- A number has too many digits, or the nesting is too deep. -/
  | excessive
  deriving DecidableEq, Repr

/-- What was read and the rest of the text, or a failure. -/
abbrev Reading (α : Type) := Except Failure (α × List Symbol)

/-- A part of a string. -/
inductive Part where
  /-- A symbol that stands for itself, or the character of a short escape. -/
  | symbol (symbol : Symbol)
  /-- An escaped UTF-16 unit. -/
  | unit (unit : Nat)
  deriving DecidableEq, Repr

/-- The characters that the letters of the short escapes stand for. -/
def shortEscapes : List (Char × Char) :=
  [('"', '"'), ('\\', '\\'), ('/', '/'), ('b', '\x08'), ('f', '\x0C'), ('n', '\n'), ('r', '\r'),
    ('t', '\t')]

/-- A symbol as a hexadecimal digit. -/
def hexDigit? (symbol : Symbol) : Option Nat :=
  Numeral.digit? 16 symbol.legible

/-- The unit of four hexadecimal digits. -/
def unit? (a b c d : Symbol) : Option Nat := do
  let a ← hexDigit? a
  let b ← hexDigit? b
  let c ← hexDigit? c
  let d ← hexDigit? d
  return ((a * 16 + b) * 16 + c) * 16 + d

/-- The part that a short escape stands for, by the symbol after its backslash. -/
def shortEscape? (letter : Symbol) : Option Part :=
  (shortEscapes.lookup letter.legible).map fun c => .symbol (.character c)

/-- Read parts after those already read, the latest first, up to the closing quote. The text
from the opening quote on is given for the case that there is none. An escaped unit must be
followed by at least one more symbol. -/
def readParts (opening : List Symbol) (parts : List Part) : List Symbol → Reading (List Part)
  | [] => .error (.unexpected opening)
  | .character '"' :: rest => .ok (parts.reverse, rest)
  | [.character '\\'] => .error (.unexpected opening)
  | .character '\\' :: .character 'u' :: a :: b :: c :: d :: next :: rest =>
    match unit? a b c d with
    | some unit => readParts opening (.unit unit :: parts) (next :: rest)
    | none => .error (.unexpected (.character 'u' :: a :: b :: c :: d :: next :: rest))
  | .character '\\' :: .character 'u' :: rest => .error (.unexpected (.character 'u' :: rest))
  | .character '\\' :: letter :: rest =>
    match shortEscape? letter with
    | some part => readParts opening (part :: parts) rest
    | none => .error (.unexpected (.character '\\' :: letter :: rest))
  | symbol :: rest =>
    if symbol.number < 0x20 then .error (.unexpected (symbol :: rest))
    else readParts opening (.symbol symbol :: parts) rest

/-- The symbols of parts. -/
def joinParts : List Part → List Symbol
  | [] => []
  | .unit high :: .unit low :: rest =>
    if Text.isHigh high && Text.isLow low then
      .ofNumber (Text.ofPair high low) :: joinParts rest
    else .ofNumber high :: joinParts (.unit low :: rest)
  | .unit unit :: rest => .ofNumber unit :: joinParts rest
  | .symbol symbol :: rest => symbol :: joinParts rest

/-- Read a string after its opening quote. Escapes may stand for halves of surrogate pairs, and two
halves that belong together are joined. -/
def readString (opening rest : List Symbol) : Reading Text :=
  match readParts opening [] rest with
  | .ok (parts, rest) => .ok (⟨joinParts parts⟩, rest)
  | .error failure => .error failure

end SortBench.Json
