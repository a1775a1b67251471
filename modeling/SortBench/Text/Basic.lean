import SortBench.Text.Symbol

/-!
# Texts

A text is a sequence of symbols. Names, arguments, variables and values come from outside as
texts, and what is written back is a text. Every string is a text; a text is a string when
none of its symbols is half of a surrogate pair. Texts are ordered by the numbers of their
symbols.
-/

namespace SortBench

/-- A sequence of symbols. Unlike a string it may hold single halves of surrogate pairs, as
arguments and names of files do that are not valid in their encoding. -/
structure Text where
  /-- The symbols in order. -/
  symbols : List Text.Symbol
  deriving DecidableEq, Repr

namespace Text

/-- The text of characters. -/
def ofChars (characters : List Char) : Text :=
  ⟨characters.map .character⟩

/-- The text of a string. -/
def ofString (content : String) : Text :=
  ofChars content.toList

/-- A string is a text. -/
instance : Coe String Text := ⟨ofString⟩

/-- One text after another. -/
instance : Append Text := ⟨fun first second => ⟨first.symbols ++ second.symbols⟩⟩

/-- Texts one after another. -/
def join (texts : List Text) : Text :=
  ⟨texts.flatMap symbols⟩

/-- Texts with another between each two of them. -/
def intercalate (separator : Text) (texts : List Text) : Text :=
  ⟨separator.symbols.intercalate (texts.map symbols)⟩

/-- The number of symbols of a text. -/
def length (text : Text) : Nat :=
  text.symbols.length

/-- Whether a text has no symbols. -/
def isEmpty (text : Text) : Bool :=
  text.symbols.isEmpty

/-- Whether a text begins with another. -/
def beginsWith (text start : Text) : Bool :=
  start.symbols.isPrefixOf text.symbols

/-- The string that a text is, if none of its symbols is a half. -/
def string? (text : Text) : Option String :=
  (text.symbols.mapM Symbol.char?).map String.ofList

/-- The symbols of characters are those characters. -/
theorem mapM_char?_map (characters : List Char) :
    (characters.map Symbol.character).mapM Symbol.char? = some characters := by
  induction characters with
  | nil => rfl
  | cons c rest inductionHypothesis =>
    simp only [List.map_cons, List.mapM_cons, Symbol.char?, inductionHypothesis]
    rfl

/-- Every string is the string of its text. -/
theorem string?_ofString (content : String) : (ofString content).string? = some content := by
  simp only [string?, ofString, ofChars, mapM_char?_map, Option.map_some, String.ofList_toList]

/-- The characters that a text is read as. -/
def legible (text : Text) : List Char :=
  text.symbols.map Symbol.legible

/-- The numbers of the symbols of a text. -/
def numbers (text : Text) : List Nat :=
  text.symbols.map Symbol.number

/-- A text is less than another when its numbers are lexicographically less. -/
instance : LT Text := ⟨fun first second => first.numbers < second.numbers⟩

instance (first second : Text) : Decidable (first < second) :=
  inferInstanceAs (Decidable (first.numbers < second.numbers))

end Text

/-- Named texts: the variables of an environment. -/
abbrev Texts := List (Text × Text)

end SortBench
