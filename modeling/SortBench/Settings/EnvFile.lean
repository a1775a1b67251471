import SortBench.Text.Basic
import SortBench.Text.Blank

/-!
# Files of environment variables

A file is a sequence of statements. A statement is an optional `export`, a name, an equals sign, and
a value; spaces around the name and the sign do not count. A value in quotes may hold escapes and
line ends; any other value goes to the end of the line or to a number sign after a space, and loses
the space around it. A name without an equals sign binds nothing. A number sign starts a comment.
What is no statement is skipped up to the end of its line; the line on which it starts, empty lines
before it included, is kept.

A mark for the order of bytes at the start of a file does not count.

The program does not define this format. It is that of the library python-dotenv, followed here so
that the program can be run: one instance of a reader of files. What is stated about settings is
stated for every reader, and depends on nothing in this module but the type of a binding. Where
files come from and in what encoding is not modelled; a file is a text.
-/

namespace SortBench.EnvFile

/-- A binding of a name; without a value it binds nothing. -/
abbrev Binding := Text × Option Text

/-- A statement of a file. -/
inductive Statement where
  /-- A binding. -/
  | binding (binding : Binding)
  /-- A text that starts on the given line and is no statement. -/
  | unreadable (line : Nat)
  deriving DecidableEq, Repr

/-- What was read and the rest of the text, or the text from the place of a failure on. -/
abbrev Reading (α : Type) := Except (List Char) (α × List Char)

/-- Every kind of line end becomes a line feed. -/
def unifyLineEnds : List Char → List Char
  | '\r' :: '\n' :: rest => '\n' :: unifyLineEnds rest
  | '\r' :: rest => '\n' :: unifyLineEnds rest
  | c :: rest => c :: unifyLineEnds rest
  | [] => []

/-- A space within a line. -/
def isSpace (c : Char) : Bool :=
  Text.isBlank c && c != '\n'

/-- Drop the rest of a line, its end included. -/
def dropLine (text : List Char) : List Char :=
  (text.dropWhile (· != '\n')).drop 1

/-- Drop the word that may stand before a name, with the space after it. -/
def dropExport (text : List Char) : List Char :=
  match text with
  | 'e' :: 'x' :: 'p' :: 'o' :: 'r' :: 't' :: next :: rest =>
    if isSpace next then rest.dropWhile isSpace else text
  | _ => text

/-- Whether a character may stand in a name without quotes. -/
def isNameChar (c : Char) : Bool :=
  !(c == '=' || c == '#' || Text.isBlank c)

/-- Read a name; before a comment there is none. -/
def readName (text : List Char) : Reading (Option Text) :=
  match text with
  | '#' :: _ => .ok (none, text)
  | '\'' :: body =>
    match body.takeWhile (· != '\''), body.dropWhile (· != '\'') with
    | c :: name, _ :: rest => .ok (some (.ofChars (c :: name)), rest)
    | _, _ => .error text
  | _ =>
    match text.takeWhile isNameChar with
    | [] => .error text
    | name => .ok (some (.ofChars name), text.dropWhile isNameChar)

/-- Split a quoted value at the first quote that does not follow a backslash; of several
backslashes each second one is escaped itself. -/
def splitAtFree (quote : Char) : List Char → Option (List Char × List Char)
  | [] => none
  | '\\' :: c :: rest =>
    (splitAtFree quote rest).map fun (value, rest) => ('\\' :: c :: value, rest)
  | c :: rest =>
    if c == quote then some ([], rest)
    else if c == '\\' then none
    else (splitAtFree quote rest).map fun (value, rest) => (c :: value, rest)

/-- What the escapes of a value in double quotes stand for. -/
def doubleEscapes : List (Char × Char) :=
  [('\\', '\\'), ('\'', '\''), ('"', '"'), ('a', '\x07'), ('b', '\x08'), ('f', '\x0C'),
    ('n', '\n'), ('r', '\r'), ('t', '\t'), ('v', '\x0B')]

/-- What the escapes of a value in single quotes stand for. -/
def singleEscapes : List (Char × Char) :=
  [('\\', '\\'), ('\'', '\'')]

/-- Replace escapes by what they stand for; any other backslash stays, and so does what follows
it. -/
def unescape (escapes : List (Char × Char)) : List Char → List Char
  | '\\' :: letter :: rest =>
    match escapes.lookup letter with
    | some c => c :: unescape escapes rest
    | none => '\\' :: unescape escapes (letter :: rest)
  | c :: rest => c :: unescape escapes rest
  | [] => []

/-- Read a quoted value after its opening quote. -/
def readQuoted (quote : Char) (escapes : List (Char × Char)) (opening body : List Char) :
    Reading Text :=
  match splitAtFree quote body with
  | some (value, rest) => .ok (.ofChars (unescape escapes value), rest)
  | none => .error opening

/-- Cut a value off before the space in front of a number sign. -/
def cutComment : List Char → List Char
  | [] => []
  | c :: rest =>
    if Text.isBlank c && (rest.dropWhile Text.isBlank).head? == some '#' then []
    else c :: cutComment rest

/-- Read what follows an equals sign. -/
def readValue (text : List Char) : Reading Text :=
  match text.dropWhile isSpace with
  | '\'' :: body => readQuoted '\'' singleEscapes ('\'' :: body) body
  | '"' :: body => readQuoted '"' doubleEscapes ('"' :: body) body
  | _ =>
    let line := text.takeWhile (· != '\n')
    .ok (.ofChars (Text.trimWhile Text.isBlank (cutComment line)),
      text.dropWhile (· != '\n'))

/-- Read what may follow a binding on its line: spaces and a comment. -/
def readLineEnd (text : List Char) : Reading Unit :=
  let rest := text.dropWhile isSpace
  let rest := if rest.head? == some '#' then rest.dropWhile (· != '\n') else rest
  match rest with
  | [] => .ok ((), [])
  | '\n' :: rest => .ok ((), rest)
  | rest => .error rest

/-- Read a binding with its line end; a comment is no binding. -/
def readBinding (text : List Char) : Reading (Option Binding) :=
  match readName (dropExport text) with
  | .error place => .error place
  | .ok (name?, rest) =>
    let valued : Reading (Option Text) :=
      match rest.dropWhile isSpace with
      | '=' :: rest =>
        match readValue rest with
        | .ok (value, rest) => .ok (some value, rest)
        | .error place => .error place
      | rest => .ok (none, rest)
    match valued with
    | .error place => .error place
    | .ok (value?, rest) =>
      match readLineEnd rest with
      | .error place => .error place
      | .ok ((), rest) => .ok (name?.map fun name => (name, value?), rest)

/-- How many lines end in a text. -/
def lineEnds (text : List Char) : Nat :=
  text.count '\n'

/-- Read statements up to the end of the text, which starts on the given line. Each takes at
least one character, so as much fuel as there are characters is enough. -/
def readStatements : (fuel line : Nat) → List Char → List Statement
  | 0, _, _ => []
  | fuel + 1, line, text =>
    match text.dropWhile Text.isBlank with
    | [] => []
    | start =>
      let next (rest : List Char) := line + (lineEnds text - lineEnds rest)
      match readBinding start with
      | .ok (some binding, rest) => .binding binding :: readStatements fuel (next rest) rest
      | .ok (none, rest) => readStatements fuel (next rest) rest
      | .error place =>
        let rest := dropLine place
        .unreadable line :: readStatements fuel (next rest) rest

/-- The mark for the order of bytes. -/
def byteOrderMark : Char := '\uFEFF'

/-- A text without a mark for the order of bytes at its start. -/
def dropMark : List Char → List Char
  | c :: rest => if c == byteOrderMark then rest else c :: rest
  | [] => []

/-- The statements of a file in order. A text that is no statement is among them, so that the lines
of such texts can be told. -/
def statements (text : String) : List Statement :=
  let characters := unifyLineEnds (dropMark text.toList)
  readStatements characters.length 1 characters

/-- The bindings among statements, in order. A name may be bound several times; which binding counts
is left to who uses them. -/
def bindings (statements : List Statement) : List Binding :=
  statements.filterMap fun
    | .binding binding => some binding
    | .unreadable _ => none

/-- The lines on which texts start that are no statements, in order. -/
def unreadableLines (statements : List Statement) : List Nat :=
  statements.filterMap fun
    | .binding _ => none
    | .unreadable line => some line

end SortBench.EnvFile
