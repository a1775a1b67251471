import SortBench.Fault.Basic
import SortBench.Log
import SortBench.Numeral.Literal
import SortBench.Register.Generator
import SortBench.Text.Uppercase

/-!
# Settings

The settings come from four environment variables. An empty seed or limit counts as missing,
an empty level does not. The variables are checked in the order seed, limit, level, and the
first that is wrong is the fault.
-/

namespace SortBench

/-- The settings of the command line and the service. -/
structure Settings where
  /-- The seed of generators for which none is given. -/
  seed : Int
  /-- The largest number of values that are drawn or sorted on request. -/
  limit : Int
  /-- The level below which log entries are left out. -/
  level : Level
  /-- The address of the user interface. -/
  frontend : Text
  deriving DecidableEq, Repr

namespace Settings

/-- What is wrong with the settings. -/
inductive Fault where
  /-- The seed is no integer. -/
  | seedUnreadable (text : Text)
  /-- The seed is an integer but no seed. -/
  | seedRefused (cause : Precondition)
  /-- The limit is no integer. -/
  | limitUnreadable (text : Text)
  /-- The limit is negative. -/
  | limitNegative (number : Int)
  /-- The level has no such name. -/
  | levelUnknown (text : Text)
  /-- A file sets a variable whose name no variable may have. -/
  | nameIllegal
  /-- The name of a file, or a variable that a file sets, holds the null character. -/
  | nullCharacter
  /-- The name of a file holds halves of surrogate pairs that stand for no byte, from the given
  one on up to the last position. -/
  | nameStray (half first last : Nat)
  deriving DecidableEq, Repr

/-- The text of a fault. -/
def Fault.message : Fault → Text
  | seedUnreadable text => "FIXTURE_SEED must be an integer, got " ++ Text.quoted text
  | seedRefused cause => SortBench.Fault.message (.precondition cause)
  | limitUnreadable text => "FIXTURE_MAX_SIZE must be an integer, got " ++ Text.quoted text
  | limitNegative number => "FIXTURE_MAX_SIZE must be >= 0, got " ++ Numeral.decimal number
  | levelUnknown text =>
    "FIXTURE_LOG_LEVEL must be one of " ++ Text.quotedTuple Level.names ++ ", got " ++
      Text.quoted text
  | nameIllegal => "illegal environment variable name"
  | nullCharacter => "embedded null byte"
  | nameStray half first last =>
    "'utf-8' codec can't encode character" ++
      (if first = last then
        " '" ++ String.ofList ('\\' :: 'u' :: Text.hexDigits 4 half) ++ "' in position " ++
          Numeral.decimal first
      else "s in position " ++ Numeral.decimal first ++ "-" ++ Numeral.decimal last) ++
      ": surrogates not allowed"

/-- The limit when none is set. -/
def defaultLimit : Int := 10000

/-- The name of the level when none is set. -/
def defaultLevel : Text := "INFO"

/-- The address of the user interface when none is set. -/
def defaultFrontend : Text := "http://localhost:3000"

/-- The variable of the seed. -/
def seedName : Text := "FIXTURE_SEED"

/-- The variable of the limit. -/
def limitName : Text := "FIXTURE_MAX_SIZE"

/-- The variable of the level. -/
def levelName : Text := "FIXTURE_LOG_LEVEL"

/-- The variable of the address of the user interface. -/
def frontendName : Text := "FRONTEND_URL"

/-- The seed that is set, as a literal of any base, or the default one if nothing is set. -/
def readSeed (environment : Texts) : Except Fault Int :=
  let text : Text := (environment.lookup seedName).getD ""
  let number? : Option Int :=
    if text.isEmpty then some Register.defaultSeed else (Numeral.readLiteral text).toOption
  match number? with
  | none => .error (.seedUnreadable text)
  | some seed =>
    match Generator.requireSeed seed with
    | .met _ => .ok seed
    | .violated cause => .error (.seedRefused cause)

/-- The limit that is set, in decimal, or the default one if nothing is set. A negative limit is
wrong, and zero is not. -/
def readLimit (environment : Texts) : Except Fault Int :=
  let text : Text := (environment.lookup limitName).getD ""
  let number? :=
    if text.isEmpty then some defaultLimit else (Numeral.readDecimal text).toOption
  match number? with
  | none => .error (.limitUnreadable text)
  | some limit => if limit < 0 then .error (.limitNegative limit) else .ok limit

/-- The level that is set; its name may be written in any case. -/
def readLevel (environment : Texts) : Except Fault Level :=
  let name := Text.uppercase ((environment.lookup levelName).getD defaultLevel)
  match Level.ofName? name with
  | some level => .ok level
  | none => .error (.levelUnknown name)

/-- The settings of an environment. The first variable that is wrong decides the fault. -/
def ofEnvironment (environment : Texts) : Except Fault Settings :=
  match readSeed environment with
  | .error fault => .error fault
  | .ok seed =>
    match readLimit environment with
    | .error fault => .error fault
    | .ok limit =>
      match readLevel environment with
      | .error fault => .error fault
      | .ok level =>
        .ok
          { seed, limit, level
            frontend := (environment.lookup frontendName).getD defaultFrontend }

/-- The variables that settings are read from. -/
def variableNames : List Text :=
  [seedName, limitName, levelName, frontendName]

/-- The settings as a log message shows them. -/
def shown (settings : Settings) : String :=
  "config=FixtureConfig(seed=" ++ Numeral.decimal settings.seed ++ ", max_size=" ++
    Numeral.decimal settings.limit ++ ", log_level=" ++ Text.quoted settings.level.name ++
    ", frontend_url=" ++ Text.quoted settings.frontend ++ ")"

end Settings

end SortBench
