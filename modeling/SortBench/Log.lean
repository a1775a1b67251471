import SortBench.Text.Basic

/-!
# Log entries

An entry has a source, a level and a message. Entries below a chosen level are left out when
the log is written; every other entry is one line.
-/

namespace SortBench

/-- The importance of a log entry. -/
inductive Level where
  /-- Detail for the search for errors. -/
  | debug
  /-- Normal events. -/
  | info
  /-- Events that may be a problem. -/
  | warning
  /-- Failures. -/
  | error
  /-- Failures that end everything. -/
  | critical
  deriving DecidableEq, Repr

namespace Level

/-- All levels in increasing order. -/
def all : List Level := [debug, info, warning, error, critical]

/-- The name of a level. -/
def name : Level → Text
  | debug => "DEBUG"
  | info => "INFO"
  | warning => "WARNING"
  | error => "ERROR"
  | critical => "CRITICAL"

/-- The rank of a level as a number. -/
def value : Level → Nat
  | debug => 10
  | info => 20
  | warning => 30
  | error => 40
  | critical => 50

/-- The names of all levels in increasing order. -/
def names : List Text := all.map name

/-- The level of a name. -/
def ofName? (name : Text) : Option Level :=
  all.find? fun level => level.name == name

end Level

/-- A log entry. -/
structure Log.Entry where
  /-- The part of the program that made the entry. -/
  source : String
  /-- Its level. -/
  level : Level
  /-- Its message. -/
  message : Text
  deriving DecidableEq, Repr

namespace Log

/-- The source of the entries about runs of programs. -/
def runs : String := "fixture_programs.runner"

/-- The source of the entries about commands. -/
def commands : String := "fixture_programs.cli"

/-- The line of an entry, without its line end. -/
def Entry.line (entry : Entry) : Text :=
  entry.source ++ " - " ++ entry.level.name ++ " - " ++ entry.message

/-- The text of a log: the lines of the entries at or above a level. -/
def text (threshold : Level) (entries : List Entry) : Text :=
  Text.join
    ((entries.filter fun entry => threshold.value ≤ entry.level.value).map fun entry =>
      entry.line ++ "\n")

end Log

end SortBench
