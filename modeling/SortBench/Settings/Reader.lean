import SortBench.Settings.Reference
import SortBench.Settings.Source

/-!
# The reader of files that the program is run with

The program reads files of variables through the library python-dotenv. This is a reader that
behaves as version 1.2.4 of it does, as far as files of texts go: it sets what the statements
of a file bind, references in values replaced, and leaves alone what the environment holds,
even when that is empty. A missing file has no statements. A variable of the environment turns
the reading of files off altogether.

Some halves of surrogate pairs stand for bytes in the name of a file; a name with any other
half names nothing. A null character can be passed neither in a name nor in a variable.
-/

namespace SortBench.Settings

open Text (Symbol)

/-- The variable that turns files of variables off. -/
def disablingName : Text := "PYTHON_DOTENV_DISABLED"

/-- Whether files of variables are turned off. -/
def filesDisabled (environment : Texts) : Bool :=
  match environment.lookup disablingName with
  | none => false
  | some text => (Text.uppercase text).string?.any ["1", "TRUE", "T", "YES", "Y"].contains

/-- Whether a text holds the null character. -/
def holdsNull (text : Text) : Bool :=
  text.symbols.contains '\x00'

/-- Whether a symbol is half of a surrogate pair. -/
def isHalf : Symbol → Bool
  | .character _ => false
  | .half _ => true

/-- Whether a symbol is half of a surrogate pair that stands for no byte. -/
def isStray : Symbol → Bool
  | .character _ => false
  | .half unit => !(0xDC80 ≤ unit && unit ≤ 0xDCFF)

/-- The first half in the name of a file that stands for no byte, with the halves directly
after it. -/
def strayFault? (name : Text) : Option Fault :=
  let before := name.symbols.takeWhile fun symbol => !isStray symbol
  match name.symbols.drop before.length with
  | [] => none
  | first :: rest =>
    let further := rest.takeWhile isHalf
    some (.nameStray first.number before.length (before.length + further.length))

/-- What is wrong with the name of a file. -/
def nameFault? (name : Text) : Option Fault :=
  match strayFault? name with
  | some fault => some fault
  | none => if holdsNull name then some .nullCharacter else none

/-- The statements of the file of a name; without a file there are none. -/
def statements (files : Files) (name : Text) (environment : Texts) :
    Except Fault (List EnvFile.Statement) :=
  if filesDisabled environment then .ok []
  else
    match nameFault? name with
    | some fault => .error fault
    | none => .ok (EnvFile.statements ((fileText? files name).getD ""))

/-- The lines of the file that is read on which texts start that are no statements. -/
def unreadableLines (environment : Texts) (files : Files) (chosen : Option Text) : List Nat :=
  match statements files (chosen.getD defaultFile) environment with
  | .ok statements => EnvFile.unreadableLines statements
  | .error _ => []

/-- What is wrong with a variable that a file sets. -/
def entryFault? (entry : Text × Text) : Option Fault :=
  if holdsNull entry.1 || holdsNull entry.2 then some .nullCharacter
  else if entry.1.symbols.contains '=' then some .nameIllegal
  else none

/-- An environment with the variables that bindings of a file set in it. -/
def extended (environment : Texts) (bindings : List EnvFile.Binding) : Except Fault Texts :=
  let added := EnvFile.additions environment bindings
  match added.findSome? entryFault? with
  | some fault => .error fault
  | none => .ok (environment ++ added)

/-- The reader that sets what the statements of a file bind. It is one instance of a reader, and the
one with which the program is run. -/
def envFileReader : FileReader := fun files name environment =>
  match statements files name environment with
  | .error fault => .error fault
  | .ok statements => extended environment (EnvFile.bindings statements)

/-- An environment after its file was read. -/
def completed (environment : Texts) (files : Files) (chosen : Option Text) : Except Fault Texts :=
  completedBy envFileReader environment files chosen

/-- The settings of an environment and files. -/
def load (environment : Texts) (files : Files) (chosen : Option Text) : Except Fault Settings :=
  loadBy envFileReader environment files chosen

end SortBench.Settings
