import SortBench.Text.Basic
import SortBench.Text.Printable

/-!
# Quoted text

Messages show a text between quotes. The quote is the single one, unless the text contains
a single quote and no double quote. Inside, a backslash and the quote in use are preceded by
a backslash; line feed, carriage return and tab have their letters; every other character
that is not printable is written by its code point in two, four or eight hexadecimal digits.
-/

namespace SortBench.Text

/-- The lowercase hexadecimal digits of a number, at least `width` of them. -/
def hexDigits (width number : Nat) : List Char :=
  let digits := Nat.toDigits 16 number
  List.replicate (width - digits.length) '0' ++ digits

/-- The quote around a text: single, unless only the double one needs no escape. -/
def quoteFor (text : List Char) : Char :=
  if text.contains '\'' && !text.contains '"' then '"' else '\''

/-- How one character is written between quotes of the given kind. -/
def escapeChar (quote c : Char) : List Char :=
  if c == quote || c == '\\' then ['\\', c]
  else if c == '\n' then ['\\', 'n']
  else if c == '\r' then ['\\', 'r']
  else if c == '\t' then ['\\', 't']
  else if isPrintable c then [c]
  else if c.toNat ≤ 0xFF then '\\' :: 'x' :: hexDigits 2 c.toNat
  else if c.toNat ≤ 0xFFFF then '\\' :: 'u' :: hexDigits 4 c.toNat
  else '\\' :: 'U' :: hexDigits 8 c.toNat

/-- How one symbol is written between quotes of the given kind. Half of a surrogate pair is
not printable. -/
def escapeSymbol (quote : Char) : Symbol → List Char
  | .character c => escapeChar quote c
  | .half unit => '\\' :: 'u' :: hexDigits 4 unit

/-- A text between quotes, with the symbols that need it escaped. -/
def quoted (text : Text) : String :=
  let quote := quoteFor text.legible
  String.ofList (quote :: text.symbols.flatMap (escapeSymbol quote) ++ [quote])

/-- The beginning of a quoted text, of at most the given number of characters. -/
def quotedUpTo (width : Nat) (text : Text) : String :=
  String.ofList ((quoted text).toList.take width)

/-- Quoted texts between square brackets, separated by a comma and a space. -/
def quotedList (texts : List Text) : String :=
  "[" ++ ", ".intercalate (texts.map quoted) ++ "]"

/-- Quoted texts between parentheses, separated by a comma and a space; a single one is
followed by a comma. -/
def quotedTuple (texts : List Text) : String :=
  match texts with
  | [only] => "(" ++ quoted only ++ ",)"
  | _ => "(" ++ ", ".intercalate (texts.map quoted) ++ ")"

end SortBench.Text
