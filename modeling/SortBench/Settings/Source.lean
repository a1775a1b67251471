import SortBench.Settings.Basic

/-!
# Where settings come from

Settings are read from an environment to which a file of variables may add. The file is the
chosen one, even when there is no such file, or else the default one, if there is such a file.

The reading of files is not part of the program, which leaves it to a library. So a *reader*
of files is a parameter here: it turns an environment into the one that it leaves when it is
handed the name of a file, and nothing else is known of it. What the program relies on, that a
file adds variables and replaces none, is a law of readers and not a fact about all of them.
The program is run with the reader of `SortBench.Settings.Reader`.

A file is found by the parts of its name. Slashes separate the parts, empty parts and single
dots do not count, and a name that ends in such a part is none of a file. Two dots are a part
like any other, so no name leads upward, and there are no links.
-/

namespace SortBench

/-- The texts of files by the names of the files. -/
abbrev Files := List (Text × String)

namespace Settings

open Text (Symbol)

/-- The name of the file that is read when none is chosen. -/
def defaultFile : Text := ".env"

/-- The parts of a text between slashes. -/
def splitAtSlashes (text : List Symbol) : List (List Symbol) :=
  text.foldr
    (fun (c : Symbol) parts =>
      match parts with
      | part :: rest => if c == '/' then [] :: part :: rest else (c :: part) :: rest
      | [] => [[c]])
    [[]]

/-- Whether a part of the name of a file does not count. -/
def isIdle (part : List Symbol) : Bool :=
  part.isEmpty || part == [.character '.']

/-- The parts of the name of a file that count. A slash at the start counts too. -/
def fileParts? (name : Text) : Option (Bool × List (List Symbol)) :=
  let parts := splitAtSlashes name.symbols
  match parts.getLast? with
  | none => none
  | some last =>
    if isIdle last then none
    else some (name.beginsWith "/", parts.filter fun part => !isIdle part)

/-- The text of a file. The name of a file is compared by its parts, so several names may be those
of one file. -/
def fileText? (files : Files) (name : Text) : Option String :=
  (fileParts? name).bind fun parts =>
    (files.find? fun (other, _) => fileParts? other == some parts).map Prod.snd

/-- A reader of files of variables: what becomes of an environment when the file of a name is
read, unless the name or a variable of the file cannot be passed on. -/
abbrev FileReader := Files → Text → Texts → Except Fault Texts

/-- An environment after the file was read that is chosen, or else the default one. -/
def completedBy (reader : FileReader) (environment : Texts) (files : Files) :
    Option Text → Except Fault Texts
  | some name => reader files name environment
  | none =>
    if (fileText? files defaultFile).isSome then reader files defaultFile environment
    else .ok environment

/-- The settings of an environment and files that are read by a reader. The environment is completed
first, and then checked as one without files would be. -/
def loadBy (reader : FileReader) (environment : Texts) (files : Files) (chosen : Option Text) :
    Except Fault Settings :=
  match completedBy reader environment files chosen with
  | .error fault => .error fault
  | .ok completed => ofEnvironment completed

end Settings

end SortBench
