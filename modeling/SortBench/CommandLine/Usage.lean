import SortBench.Numeral.Literal

/-!
# Summaries of arguments

A refusal and an explanation begin with a summary: the name of the program, then a
placeholder for each parameter, the named ones first. A summary that is too long for a line
has to be broken between its *parts*. A part is a text in round or square brackets, or else a
word. The parts with single spaces between them must be the placeholders again, for the named
and for the positional parameters; otherwise there is no summary.

Placeholders are tidied first: no space stands inside a bracket at its ends, no pair of
brackets is empty, and round brackets go: the first opening one with the last closing one
after it, as long as no bar stands between them.
-/

namespace SortBench.CommandLine.Usage

/-- Whether a character opens a bracket. -/
def isOpening (c : Char) : Bool :=
  c == '(' || c == '['

/-- Whether a character closes a bracket. -/
def isClosing (c : Char) : Bool :=
  c == ')' || c == ']'

/-- Drop a space after each opening bracket. -/
def closeUpStarts : List Char → List Char
  | c :: ' ' :: rest =>
    if isOpening c then c :: closeUpStarts rest else c :: closeUpStarts (' ' :: rest)
  | c :: rest => c :: closeUpStarts rest
  | [] => []

/-- Drop a space before each closing bracket. -/
def closeUpEnds : List Char → List Char
  | ' ' :: c :: rest =>
    if isClosing c then c :: closeUpEnds rest else ' ' :: closeUpEnds (c :: rest)
  | c :: rest => c :: closeUpEnds rest
  | [] => []

/-- Drop each pair of brackets with nothing but spaces inside. -/
def dropEmptyPairs : List Char → List Char
  | [] => []
  | c :: rest =>
    let spaces := (rest.takeWhile (· == ' ')).length
    if isOpening c && (rest.drop spaces).head?.any isClosing then
      dropEmptyPairs (rest.drop (spaces + 1))
    else c :: dropEmptyPairs rest
termination_by text => text.length
decreasing_by all_goals simp only [List.length_cons, List.length_drop]; omega

/-- How many characters stand before the last closing round bracket in front of any bar. -/
def innerExtent? (text : List Char) : Option Nat :=
  let reach := text.takeWhile (· != '|')
  match reach.reverse.dropWhile (· != ')') with
  | [] => none
  | _ :: inner => some inner.length

/-- Drop each opening round bracket with the last closing one in its reach; what stands
between the two is not looked at again. -/
def dropRoundPairs : List Char → List Char
  | [] => []
  | c :: rest =>
    match if c == '(' then innerExtent? rest else none with
    | some extent => rest.take extent ++ dropRoundPairs (rest.drop (extent + 1))
    | none => c :: dropRoundPairs rest
termination_by text => text.length
decreasing_by all_goals simp only [List.length_cons, List.length_drop]; omega

/-- Placeholders on one line, tidied. -/
def tidied (placeholders : List Text) : List Char :=
  let line := (Text.intercalate " " placeholders).legible
  Text.trimWhile Text.isBlank
    (dropRoundPairs (dropEmptyPairs (closeUpEnds (closeUpStarts line))))

/-- How many characters a bracket takes after the opening one, up to a closing one that space
or the end of the text follows; all of them stand on one line. -/
def bracketExtent? (closing : Char) : List Char → Option Nat
  | [] => none
  | c :: rest =>
    if c == '\n' then none
    else if c == closing && rest.head?.all Text.isBlank then some 1
    else (bracketExtent? closing rest).map (· + 1)

/-- How many characters the part takes that starts with the given character, not counting
that one. -/
def extentAfter (c : Char) (rest : List Char) : Nat :=
  let bracket? :=
    if c == '(' then bracketExtent? ')' rest
    else if c == '[' then bracketExtent? ']' rest
    else none
  bracket?.getD (rest.takeWhile fun c => !Text.isBlank c).length

/-- The parts of a text. -/
def parts : List Char → List (List Char)
  | [] => []
  | c :: rest =>
    if Text.isBlank c then parts rest
    else
      let extent := extentAfter c rest
      (c :: rest.take extent) :: parts (rest.drop extent)
termination_by text => text.length
decreasing_by all_goals simp only [List.length_cons, List.length_drop]; omega

/-- Whether a text is its parts with single spaces between them. -/
def isBreakable (text : List Char) : Bool :=
  [' '].intercalate (parts text) == text

/-- The variable that sets the columns of the screen. -/
def columnsName : Text := "COLUMNS"

/-- The columns of a screen when no positive number of them is set. -/
def defaultColumns : Nat := 80

/-- How many characters a line has room for, by the text that sets the columns of the screen:
the last two columns stay free. -/
def lineWidth (columns : Option Text) : Nat :=
  match columns.map Numeral.readDecimal with
  | some (.ok (.ofNat (count + 1))) => count + 1 - 2
  | _ => defaultColumns - 2

/-- Whether there is a summary for a program with the given placeholders, where lines have
room for so many characters. -/
def isWritable (width : Nat) (program : String) (named positional : List Text) : Bool :=
  let line := "usage: " ++ program ++ " " ++ String.ofList (tidied (named ++ positional))
  line.length ≤ width || (isBreakable (tidied named) && isBreakable (tidied positional))

end SortBench.CommandLine.Usage
