import SortBench.CommandLine.Commands

/-!
# The program

Reads the environment and the file of variables that the arguments choose, carries the
request out, and writes both outputs. The only effects of the program are here.
-/

namespace SortBench

/-- The variables of the given names that are set in the environment of the process. -/
def readEnvironment (names : List Text) : IO Texts :=
  names.filterMapM fun name => do
    match name.string? with
    | none => return none
    | some key => return (← IO.getEnv key).map fun (value : String) => (name, value)

/-- The text of the file of a name, if it can be read. -/
def readFile? (name : Text) : IO (Option String) := do
  match name.string? with
  | none => return none
  | some path =>
    try
      return some (← IO.FS.readFile path)
    catch _ =>
      return none

/-- The file of environment variables that the arguments choose. -/
def chosenFile (arguments : List Text) : Text :=
  let width := CommandLine.Usage.lineWidth none
  match CommandLine.Request.ofArguments width Registry.builtIn.names arguments with
  | .ok request => request.file.getD Settings.defaultFile
  | .error _ => Settings.defaultFile

/-- The names of the variables that files may set, refer to, or depend on, and of the one
that sets the columns of the screen. -/
def relevantNames (files : Files) : List Text :=
  CommandLine.Usage.columnsName :: Settings.disablingName :: Settings.variableNames ++
    files.flatMap fun (_, text) =>
      EnvFile.mentioned (EnvFile.bindings (EnvFile.statements text))

end SortBench

open SortBench in
/-- Carry out the command line. A fault that no command expects ends with its text. -/
def main (words : List String) : IO UInt32 := do
  let arguments := words.map Text.ofString
  let name := chosenFile arguments
  let files := (← readFile? name).toList.map fun text => (name, text)
  let environment ← readEnvironment (relevantNames files)
  match CommandLine.run { environment, files } arguments with
  | .ok ending =>
    IO.print (String.ofList ending.output.legible)
    IO.eprint (String.ofList ending.errors.legible)
    return ending.code.toUInt32
  | .error fault =>
    IO.eprintln (String.ofList fault.message.legible)
    return 1
