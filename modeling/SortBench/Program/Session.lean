import SortBench.Fault.Basic
import SortBench.Log

/-!
# Sessions

What outlives a single run: how often the literal of each program was read, the log, and the
texts that were printed. All three only grow, and a failure leaves them as they are. A
procedure works within a session and then answers or fails. Where the cause of a failure was
found outside, the failure within is what is raised for it.
-/

namespace SortBench

/-- The record of a session: what was printed, what was logged, and how often each literal was
read. -/
structure Session where
  /-- For each program whose literal was read, how often. -/
  readings : List (Text × Nat) := []
  /-- The log, in order. -/
  entries : List Log.Entry := []
  /-- The printed texts, in order; each ends a line. -/
  printed : List Text := []
  deriving DecidableEq, Repr

/-- A procedure within a session: its answer or failure, and the session afterwards. -/
abbrev Procedure := ExceptT Fault (StateM Session)

namespace Session

/-- How often the literal of a program was read. -/
def readingsOf (session : Session) (program : Text) : Nat :=
  (session.readings.lookup program).getD 0

/-- The session after one more reading of the literal of a program. -/
def countReading (session : Session) (program : Text) : Session :=
  { session with
    readings :=
      (program, session.readingsOf program + 1) ::
        session.readings.filter fun entry => entry.1 != program }

/-- The text of everything printed. -/
def output (session : Session) : Text :=
  Text.join (session.printed.map (· ++ "\n"))

end Session

namespace Procedure

/-- Answer or fail without touching the session. A failure is raised under the usual limit, so this
is where a cause whose text cannot be written turns into another. -/
def ofExcept {β : Type} (outcome : Except Fault β) : Procedure β :=
  ExceptT.mk (pure (outcome.mapError (Fault.raised Numeral.usualLimit)))

/-- Add an entry to the log. -/
def note (entry : Log.Entry) : Procedure Unit :=
  modify fun session => { session with entries := session.entries ++ [entry] }

/-- Print texts, each on a line of its own. -/
def print (texts : List Text) : Procedure Unit :=
  modify fun session => { session with printed := session.printed ++ texts }

/-- The outcome of a procedure as an answer of its own; this never fails. -/
def outcome {β : Type} (procedure : Procedure β) : Procedure (Except Fault β) :=
  ExceptT.mk do
    let outcome ← procedure.run
    pure (.ok outcome)

end Procedure

end SortBench
