import SortBench.CommandLine.Parsing
import SortBench.Log
import SortBench.Numeral.Literal

/-!
# Requests on the command line

A request is one of five commands, with the level of the log and the file of environment
variables that it asks for. Before the command stand the parameters of every request, after
it those of the command. Integers are decimal literals, except that a seed may have a base
marker. Where the separator is attached to a name in place of a value, a level counts as not
chosen, the name of a file as empty, and a number as missing; only its use is a fault.
Arguments that nothing took are refused together, those before the command first.
-/

namespace SortBench.CommandLine

/-- A number that was given for a parameter, or nothing in its place. Nothing is given where the
separator stands in the place of the number. -/
abbrev GivenNumber := Option Int

/-- A command with its arguments. -/
inductive Command where
  /-- List the programs. -/
  | list
  /-- Run a program and show so many values. -/
  | run (name : Text) (shown : GivenNumber)
  /-- Draw values from the register, from a given seed if there is one. -/
  | draw (seed : Option GivenNumber) (count : GivenNumber) (hexadecimal : Bool)
  /-- Sort integers. -/
  | sort (algorithm : Text) (numbers : List Int)
  /-- Verify programs; without names all of them. -/
  | verify (names : List Text)
  deriving DecidableEq, Repr

/-- What the command line asks for. -/
structure Request where
  /-- The level of the log, if one is chosen. -/
  level : Option Level
  /-- The file of environment variables, if one is chosen. -/
  file : Option Text
  /-- The command. -/
  command : Command
  deriving DecidableEq, Repr

/-- The name of the program. -/
def program : String := "fixture-programs"

/-- The names of the commands. -/
def commandNames : List Text := ["list", "run", "lfsr", "sort", "verify"]

/-- The name of a command in messages. -/
def commandProgram (command : String) : String :=
  program ++ " " ++ command

/-- Refuse a text that is none of several choices. -/
def notAmong (choices : List Text) (text : Text) : Refusal :=
  .value
    ("invalid choice: " ++ Text.quoted text ++ " (choose from " ++
      ", ".intercalate (choices.map Text.quoted) ++ ")")

/-- Read an integer or refuse the text; the kind of integer stands in the message. -/
def readNumber (kind : String) (read : Text → Except Numeral.Misread Int) (text : Text) :
    Except Refusal Int :=
  match read text with
  | .ok number => .ok number
  | .error _ => .error (.value ("invalid " ++ kind ++ " value: " ++ Text.quoted text))

/-- Read a decimal integer. -/
def readInteger (text : Text) : Except Refusal Int :=
  readNumber "int" Numeral.readDecimal text

/-- Read a seed. -/
def readSeed (text : Text) : Except Refusal Int :=
  readNumber "<lambda>" Numeral.readLiteral text

/-- Read a number that may be missing. -/
def readGiven (read : Text → Except Refusal Int) : Option Text → Except Refusal GivenNumber
  | none => .ok none
  | some text => (read text).map some

/-- The arguments of the command that runs a program. -/
structure RunDraft where
  /-- The name of the program. -/
  name : Text := ""
  /-- How many values to show. -/
  shown : GivenNumber := some 10

/-- The parameters of the command that runs a program. -/
def runGrammar (width : Nat) : Grammar RunDraft :=
  { program := commandProgram "run"
    width
    named :=
      [Named.help,
       { names := ["--show"]
         placeholder := "[--show SHOW]"
         effect := .valued fun value draft =>
           (readGiven readInteger value).map fun shown => { draft with shown } }]
    positional :=
      [{ name := "name"
         placeholder := "name"
         share := .one fun name draft => .ok { draft with name } }] }

/-- The arguments of the command that draws values. -/
structure DrawDraft where
  /-- The seed, if one is given. -/
  seed : Option GivenNumber := none
  /-- How many values to draw. -/
  count : GivenNumber := some 5
  /-- Whether they are written in hexadecimal. -/
  hexadecimal : Bool := false

/-- The parameters of the command that draws values. -/
def drawGrammar (width : Nat) : Grammar DrawDraft :=
  { program := commandProgram "lfsr"
    width
    named :=
      [Named.help,
       { names := ["--seed"]
         placeholder := "[--seed SEED]"
         effect := .valued fun value draft =>
           (readGiven readSeed value).map fun seed => { draft with seed := some seed } },
       { names := ["--count", "-n"]
         placeholder := "[--count COUNT]"
         effect := .valued fun value draft =>
           (readGiven readInteger value).map fun count => { draft with count } },
       { names := ["--hex"]
         placeholder := "[--hex]"
         effect := .plain fun draft => .ok { draft with hexadecimal := true } }]
    positional := [] }

/-- The arguments of the command that sorts integers. -/
structure SortDraft where
  /-- The name of the algorithm. -/
  algorithm : Text := ""
  /-- The integers. -/
  numbers : List Int := []

/-- Several choices in the summary of the arguments. -/
def choicesPlaceholder (choices : List Text) : Text :=
  "\x7b" ++ .intercalate "," choices ++ "\x7d"

/-- The parameters of the command that sorts integers by one of the given algorithms. -/
def sortGrammar (width : Nat) (algorithms : List Text) : Grammar SortDraft :=
  { program := commandProgram "sort"
    width
    named := [Named.help]
    positional :=
      [{ name := "algorithm"
         placeholder := choicesPlaceholder algorithms
         share := .one fun algorithm draft =>
           if algorithms.contains algorithm then .ok { draft with algorithm }
           else .error (notAmong algorithms algorithm) },
       { name := "values"
         placeholder := "[values ...]"
         share := .many fun texts draft =>
           (texts.mapM readInteger).map fun numbers => { draft with numbers } }] }

/-- The parameters of the command that verifies programs. -/
def verifyGrammar (width : Nat) : Grammar (List Text) :=
  { program := commandProgram "verify"
    width
    named := [Named.help]
    positional :=
      [{ name := "names"
         placeholder := "[names ...]"
         share := .many fun names _ => .ok names }] }

/-- The parameters of the command that lists the programs. -/
def listGrammar (width : Nat) : Grammar Unit :=
  { program := commandProgram "list"
    width
    named := [Named.help]
    positional := [] }

/-- Read the arguments of a command; those that nothing took are left over. -/
def readCommand (width : Nat) (algorithms : List Text) (name : Text)
    (arguments : List Text) : Except Refusal (Command × List Text) :=
  match name.string? with
  | some "list" => read (listGrammar width) () fun _ => .list
  | some "run" => read (runGrammar width) {} fun draft => .run draft.name draft.shown
  | some "lfsr" =>
    read (drawGrammar width) {} fun draft => .draw draft.seed draft.count draft.hexadecimal
  | some "sort" =>
    read (sortGrammar width algorithms) {} fun draft => .sort draft.algorithm draft.numbers
  | some "verify" => read (verifyGrammar width) [] .verify
  | _ => .error (notAmong commandNames name)
where
  read {σ : Type} (grammar : Grammar σ) (start : σ) (command : σ → Command) :
      Except Refusal (Command × List Text) :=
    match grammar.parse start arguments with
    | .ok (draft, left) => .ok (command draft, left)
    | .error stop => .error (.stop stop)

/-- A request that is being read. -/
structure Draft where
  /-- The level of the log. -/
  level : Option Level := none
  /-- The file of environment variables. -/
  file : Option Text := none
  /-- The command with the arguments that were left over. -/
  command : Option (Command × List Text) := none

/-- Read the name of a level; without a name there is no level. -/
def readLevel : Option Text → Except Refusal (Option Level)
  | none => .ok none
  | some text =>
    match Level.ofName? text with
    | some level => .ok (some level)
    | none => .error (notAmong Level.names text)

/-- The parameters of every request. -/
def grammar (width : Nat) (algorithms : List Text) : Grammar Draft :=
  { program := program
    width
    named :=
      [Named.help,
       { names := ["--log-level", "-l"]
         placeholder := "[--log-level " ++ choicesPlaceholder Level.names ++ "]"
         effect := .valued fun text draft =>
           (readLevel text).map fun level => { draft with level } },
       { names := ["--env-file"]
         placeholder := "[--env-file ENV_FILE]"
         effect := .valued fun name draft => .ok { draft with file := some (name.getD "") } }]
    positional :=
      [{ name := "command"
         placeholder := choicesPlaceholder commandNames ++ " ..."
         share := .remainder fun name arguments draft =>
           (readCommand width algorithms name arguments).map fun command =>
             { draft with command := some command } }] }

/-- Read a request. The summary of the arguments has room for so many characters a line. -/
def Request.ofArguments (width : Nat) (algorithms : List Text) (arguments : List Text) :
    Except Stop Request :=
  let grammar := grammar width algorithms
  match grammar.parse {} arguments with
  | .error stop => .error stop
  | .ok (draft, left) =>
    match draft.command with
    | none => .error (grammar.refuse "the following arguments are required: command")
    | some (command, further) =>
      match left ++ further with
      | [] => .ok { level := draft.level, file := draft.file, command }
      | unknown =>
        .error (grammar.refuse ("unrecognized arguments: " ++ .intercalate " " unknown))

end SortBench.CommandLine
