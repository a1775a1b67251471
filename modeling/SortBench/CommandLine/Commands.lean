import SortBench.CommandLine.Request
import SortBench.Json.Text
import SortBench.Program.Run
import SortBench.Site

/-!
# Commands

What each command prints and with which exit code it ends. A command that was carried out
ends with code zero; verification that failed ends with one, and a request that could not be
met with two. Some faults are not expected of any command; they are handed on to the caller.
-/

namespace SortBench.CommandLine

/-- The end of a command: its exit code and its two outputs. -/
structure Ending where
  /-- The exit code. -/
  code : Nat
  /-- The text on standard output. -/
  output : Text
  /-- The text on standard error. -/
  errors : Text
  deriving DecidableEq, Repr

/-- The command was carried out. -/
def succeeded : Nat := 0

/-- A result was not as it must be. -/
def failed : Nat := 1

/-- The request could not be met. -/
def misused : Nat := 2

/-- A text with spaces after it up to a width. -/
def padded (width : Nat) (text : Text) : Text :=
  text ++ String.ofList (List.replicate (width - text.length) ' ')

/-- The line of a program in the list. -/
def listLine (spec : Spec) : Text :=
  padded 22 spec.name ++ " " ++ padded 16 (spec.algorithm.getD "None") ++ " " ++ spec.description

/-- The number of values to draw is missing. -/
def countMissing : Fault :=
  .noNumber "'>' not supported between instances of 'list' and 'int'"

/-- The seed that is given is missing. -/
def seedMissing : Fault :=
  .noNumber "'<' not supported between instances of 'list' and 'int'"

/-- The number of values to show is missing. -/
def shownMissing : Fault :=
  .noNumber "slice indices must be integers or None or have an __index__ method"

/-- A number that is needed, or the fault of its being missing. -/
def needed (missing : Fault) : GivenNumber → Except Fault Int
  | some number => .ok number
  | none => .error missing

/-- Hold the number of values to draw against the limit, before anything is drawn and before the
seed is looked at. -/
def checkedCount (limit : Int) (count : GivenNumber) : Except Fault Int :=
  match needed countMissing count with
  | .error fault => .error fault
  | .ok count =>
    if limit < count then .error (.precondition (.countBeyondLimit count limit)) else .ok count

/-- The values that are drawn for a request: first the number is held against the limit,
then the seed is checked, then the number. -/
def drawValues (settings : Settings) (seed : Option GivenNumber) (count : GivenNumber) :
    Except Fault (List Nat) :=
  match checkedCount settings.limit count with
  | .error fault => .error fault
  | .ok count =>
    match needed seedMissing (seed.getD (some settings.seed)) with
    | .error fault => .error fault
    | .ok seed =>
      match Generator.ofSeed seed with
      | .error cause => .error (.precondition cause)
      | .ok generator => ((generator.take count).mapError .precondition).map Prod.fst

/-- Sort integers as a registered algorithm sorts them; the result is not judged. -/
def sortNumbers (registry : Registry) (limit : Int) (algorithm : Text) (numbers : List Int) :
    Except Fault Bench :=
  if limit < numbers.length then .error (.precondition (.valuesBeyondLimit numbers.length limit))
  else
    match registry.sort algorithm (Bench.ofList (numbers.map .integer)) with
    | (.error fault, _) => .error fault
    | (.ok (), bench) => .ok bench

/-- The document of sorted values. -/
def sortedDocument (algorithm : Text) (bench : Bench) : Except Fault Json.Document :=
  (Canonical.digest bench.values.toList).map fun digest =>
    .object
      [("algorithm", .text algorithm), ("values", Value.documents bench.values.toList),
        ("hash", .text digest), ("stats", .ofFigures (bench.tally.getD {}).figures)]

/-- Verify a program and print the finding; the answer tells whether it failed. Only a result
that is wrong or differs between runs is a finding; other faults end the command. -/
def verifyOne (registry : Registry) (spec : Spec) : Procedure Bool := do
  match ← Procedure.outcome (spec.verify registry) with
  | .ok report =>
    Procedure.print ["  [PASS] " ++ spec.name ++ ": " ++ report.outputDigest]
    return false
  | .error fault =>
    match fault with
    | .diverged _ _ _ | .violation _ =>
      Procedure.print ["  [FAIL] " ++ spec.name ++ ": " ++ fault.message]
      return true
    | other => throw other

/-- The line that sums up a verification. -/
def summaryLine (failures total : Nat) : String :=
  "\n" ++ Numeral.decimal (total - failures : Nat) ++ " passed, " ++ Numeral.decimal failures ++
    " failed out of " ++ Numeral.decimal total

/-- The programs of the given names, or all programs when there are none. An unknown name fails the
whole choice. -/
def chosenSpecs (catalog : Catalog) (names : List Text) : Except Fault (List Spec) :=
  if names.isEmpty then .ok catalog.sorted else names.mapM catalog.get

/-- Carry out a command; the answer is the exit code. What a command prints before it fails stays
printed. -/
def Command.perform (site : Site) (settings : Settings) : Command → Procedure Nat
  | list => do
    Procedure.print (site.catalog.sorted.map listLine)
    return succeeded
  | run name shown => do
    let spec ← Procedure.ofExcept (site.catalog.get name)
    let report ← spec.run site.registry
    let count ← Procedure.ofExcept (needed shownMissing shown)
    Procedure.print [report.text (some count)]
    return succeeded
  | draw seed count hexadecimal => do
    let values ← Procedure.ofExcept (drawValues settings seed count)
    Procedure.print
      (values.map fun value =>
        if hexadecimal then Numeral.registerHex value else Numeral.decimal value)
    return succeeded
  | sort algorithm numbers => do
    let bench ← Procedure.ofExcept (sortNumbers site.registry settings.limit algorithm numbers)
    let document ← Procedure.ofExcept (sortedDocument algorithm bench)
    Procedure.print [document.indented]
    return succeeded
  | verify names => do
    let specs ← Procedure.ofExcept (chosenSpecs site.catalog names)
    let failures ← specs.mapM (verifyOne site.registry)
    let count := failures.count true
    Procedure.print [summaryLine count specs.length]
    return if count = 0 then succeeded else failed

/-- The exit code and the error message for a fault, if it is one that a command may end with. Any
other fault is handed on to whoever started the command line. -/
def faultEnding (fault : Fault) : Option (Nat × Text) :=
  match fault with
  | .unknownProgram _ _ => some (misused, fault.message)
  | .precondition _ => some (misused, fault.message)
  | .violation _ => some (failed, fault.message)
  | .exhausted _ => some (failed, "recursion limit exceeded; use the quick_iterative algorithm")
  | _ => none

/-- The log entry about the settings. -/
def settingsEntry (settings : Settings) : Log.Entry :=
  { source := Log.commands, level := .debug, message := settings.shown }

/-- Carry out a request under given settings. -/
def Request.perform (site : Site) (settings : Settings) (request : Request) :
    Except Fault Ending :=
  let threshold := request.level.getD settings.level
  let (result, session) :=
    (request.command.perform site settings).run.run { entries := [settingsEntry settings] }
  match result with
  | .ok code => .ok ⟨code, session.output, Log.text threshold session.entries⟩
  | .error fault =>
    match faultEnding fault with
    | none => .error fault
    | some (code, message) =>
      let entry : Log.Entry := { source := Log.commands, level := .error, message }
      .ok ⟨code, session.output, Log.text threshold (session.entries ++ [entry])⟩

/-- The line about a text in a file of variables that is no statement. -/
def unreadableNotice (line : Nat) : String :=
  "python-dotenv could not parse statement starting at line " ++ Numeral.decimal line ++ "\n"

/-- An ending with a text in front of its errors. -/
def Ending.after (notices : Text) (ending : Ending) : Ending :=
  { ending with errors := notices ++ ending.errors }

/-- Carry out a request; its settings come from the site, and a request whose settings are wrong is
not carried out at all. -/
def Request.carryOut (site : Site) (request : Request) : Except Fault Ending :=
  match Settings.load site.environment site.files request.file with
  | .error fault => .ok ⟨misused, "", "Configuration error: " ++ fault.message ++ "\n"⟩
  | .ok settings => request.perform site settings

/-- Carry out what the arguments ask for. What the file of variables holds that is no
statement is noted first. The text of an explanation is left to the caller. -/
def run (site : Site) (arguments : List Text) : Except Fault Ending :=
  let width := Usage.lineWidth (site.environment.lookup Usage.columnsName)
  match Request.ofArguments width site.registry.names arguments with
  | .error .help => .ok ⟨succeeded, "", ""⟩
  | .error (.refused line) => .ok ⟨misused, "", line ++ "\n"⟩
  | .error .unbreakable => .error .unbreakable
  | .ok request =>
    let lines := Settings.unreadableLines site.environment site.files request.file
    let notices := String.join (lines.map unreadableNotice)
    (request.carryOut site).map (Ending.after notices)

end SortBench.CommandLine
