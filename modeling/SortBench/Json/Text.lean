import SortBench.Binary64.Shortest
import SortBench.Json.Document
import SortBench.Text.Quoted

/-!
# Written documents

A document is written in ASCII. Every other character of a string, and the delete character,
is escaped by its UTF-16 units in four hexadecimal digits each. A layout says what stands
before an element or a closing bracket at a given depth and what separates a name from its
document; an empty list and an empty object are always a pair of brackets.
-/

namespace SortBench.Json

/-- One UTF-16 unit as an escape. -/
def unitEscape (unit : Nat) : List Char :=
  '\\' :: 'u' :: Text.hexDigits 4 unit

/-- The escape of a character by its one or two UTF-16 units. -/
def characterEscape (c : Char) : List Char :=
  if c.toNat < 0x10000 then unitEscape c.toNat
  else
    let offset := c.toNat - 0x10000
    unitEscape (0xD800 + offset / 0x400) ++ unitEscape (0xDC00 + offset % 0x400)

/-- How one character stands in a string. Whatever is not printable ASCII is escaped, so written
documents are ASCII throughout. -/
def escaped (c : Char) : List Char :=
  if c == '"' || c == '\\' then ['\\', c]
  else if c == '\n' then ['\\', 'n']
  else if c == '\r' then ['\\', 'r']
  else if c == '\t' then ['\\', 't']
  else if c == '\x08' then ['\\', 'b']
  else if c == '\x0C' then ['\\', 'f']
  else if ' ' ≤ c && c ≤ '~' then [c]
  else characterEscape c

/-- How one symbol stands in a string. -/
def escapedSymbol : Text.Symbol → List Char
  | .character c => escaped c
  | .half unit => unitEscape unit

/-- A string between its quotes. -/
def stringText (content : Text) : String :=
  String.ofList ('"' :: content.symbols.flatMap escapedSymbol ++ ['"'])

/-- The text of a floating-point number. -/
def realText : Binary64 → String
  | .nan _ => "NaN"
  | .infinite negative => if negative then "-Infinity" else "Infinity"
  | number => number.text

/-- Where line breaks and spaces stand in a written document. -/
structure Layout where
  /-- What precedes an element or a closing bracket at the given depth. -/
  lineBreak : Nat → String
  /-- What stands between a name and its document. -/
  colon : String

/-- No line breaks and no spaces. -/
def Layout.compact : Layout :=
  { lineBreak := fun _ => "", colon := ":" }

/-- Every element on a line of its own, indented by two spaces for each level. -/
def Layout.indented : Layout :=
  { lineBreak := fun depth => String.ofList ('\n' :: List.replicate (2 * depth) ' ')
    colon := ": " }

mutual

/-- Append a document that stands at the given depth. -/
def Document.write (layout : Layout) (depth : Nat) (written : String) : Document → String
  | .null => written ++ "null"
  | .boolean truth => written ++ (if truth then "true" else "false")
  | .integer number => written ++ Numeral.decimal number
  | .real number => written ++ realText number
  | .text content => written ++ stringText content
  | .array [] => written ++ "[]"
  | .array (first :: rest) =>
    let begun := Document.write layout (depth + 1) (written ++ "[" ++ layout.lineBreak (depth + 1))
      first
    writeElements layout (depth + 1) begun rest ++ layout.lineBreak depth ++ "]"
  | .object [] => written ++ "\x7b\x7d"
  | .object ((name, first) :: rest) =>
    let begun := Document.write layout (depth + 1)
      (written ++ "\x7b" ++ layout.lineBreak (depth + 1) ++ stringText name ++ layout.colon) first
    writeMembers layout (depth + 1) begun rest ++ layout.lineBreak depth ++ "\x7d"

/-- Append the elements of a list after its first. -/
def writeElements (layout : Layout) (depth : Nat) (written : String) : List Document → String
  | [] => written
  | next :: rest =>
    writeElements layout depth
      (Document.write layout depth (written ++ "," ++ layout.lineBreak depth) next) rest

/-- Append the members of an object after its first. -/
def writeMembers (layout : Layout) (depth : Nat) (written : String) :
    List (Text × Document) → String
  | [] => written
  | (name, next) :: rest =>
    writeMembers layout depth
      (Document.write layout depth
        (written ++ "," ++ layout.lineBreak depth ++ stringText name ++ layout.colon) next) rest

end

/-- The text of a document without line breaks and spaces. -/
def Document.compact (document : Document) : String :=
  document.write .compact 0 ""

/-- The text of a document with every element on a line of its own. -/
def Document.indented (document : Document) : String :=
  document.write .indented 0 ""

end SortBench.Json
