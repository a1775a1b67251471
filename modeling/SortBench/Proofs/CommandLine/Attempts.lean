import Mathlib.Data.List.TakeWhile
import SortBench.Proofs.CommandLine.Endings
import SortBench.Proofs.Program.Smoke

/-!
# Programs that are verified one after another

Each program is verified in the session that those before it leave. Its answer is a finding, which
is one entry of the output, or a fault that ends the command. So what the whole answers and prints
is told by the answers of the single programs: the entries of those before the first one that ends
the command, and the fault of this one, or else how many passed and how many failed.
-/

namespace SortBench

namespace Spec

/-- A comparison answers with the first of two reports of one digest. The second report is looked at
for its digest only. -/
theorem compared_eq_ok {spec : Spec} {first second : Except Fault Report} {report : Report}
    (answered : spec.compared first second = .ok report) :
    first = .ok report ∧
      ∃ again, second = .ok again ∧ report.outputDigest = again.outputDigest := by
  cases first with
  | error fault => cases answered
  | ok first =>
    cases second with
    | error fault => cases answered
    | ok again =>
      dsimp only [compared] at answered
      split at answered
      case isTrue same =>
        cases answered
        exact ⟨rfl, again, rfl, same⟩
      case isFalse => cases answered

/-- A verification that answers has run the program twice, with one digest. The second run starts in
the session that the first one leaves, so a shared register has moved on between them. -/
theorem exists_runs_of_verify {registry : Registry} {spec : Spec} {session : Session}
    {report : Report} (verified : ((spec.verify registry).run.run session).1 = .ok report) :
    ∃ again between after, (spec.run registry).run.run session = (.ok report, between) ∧
      (spec.run registry).run.run between = (.ok again, after) ∧
        report.outputDigest = again.outputDigest := by
  rw [verify_compared] at verified
  obtain ⟨first, again, second, same⟩ := compared_eq_ok verified
  exact ⟨again, _, _, Prod.ext first rfl, Prod.ext second rfl, same⟩

end Spec

namespace CommandLine

/-- A program that is verified, and the session in which it is. The same program may pass in one
session and fail in another, so a verdict belongs to both. -/
structure Attempt where
  /-- The program. -/
  spec : Spec
  /-- The session when its turn comes. -/
  session : Session

/-- The programs that are verified one after another, each in the session that those before it
leave. Programs after one that ends the command are among them; they are cut off below. -/
def attempts (registry : Registry) : List Spec → Session → List Attempt
  | [], _ => []
  | spec :: rest, session =>
    ⟨spec, session⟩ :: attempts registry rest ((verifyOne registry spec).run.run session).2

namespace Attempt

variable (registry : Registry) (attempt : Attempt)

def outcome : Except Fault Report :=
  ((attempt.spec.verify registry).run.run attempt.session).1

/-- Whether the program passes: its verification answers with a report. -/
def passes : Bool :=
  (attempt.outcome registry).isOk

/-- Whether the fault of the program is no finding, but ends the command. A result that is wrong or
that differs between two runs is a finding and goes into the output; any other fault, a violated
condition among them, ends the command. -/
def aborts : Bool :=
  match attempt.outcome registry with
  | .ok _ => false
  | .error (.diverged _ _ _) => false
  | .error (.violation _) => false
  | .error _ => true

/-- The entry of the program in the output. -/
def entry : Text :=
  match attempt.outcome registry with
  | .ok report => "  [PASS] " ++ attempt.spec.name ++ ": " ++ report.outputDigest
  | .error fault => "  [FAIL] " ++ attempt.spec.name ++ ": " ++ fault.message

theorem finding_of_not_aborts {registry : Registry} {attempt : Attempt}
    (goesOn : attempt.aborts registry = false) :
    finding (attempt.outcome registry) = .ok (!attempt.passes registry) := by
  unfold aborts at goesOn
  unfold passes
  cases outcome : attempt.outcome registry with
  | ok report => rfl
  | error fault =>
    rw [outcome] at goesOn
    cases fault <;> first | rfl | cases goesOn

/-- A program that ends the command does so with its fault, which is the one that decides the exit
code. -/
theorem finding_of_aborts {registry : Registry} {attempt : Attempt}
    (ends : attempt.aborts registry = true) :
    ∃ fault, attempt.outcome registry = .error fault ∧
      finding (attempt.outcome registry) = .error fault := by
  unfold aborts at ends
  cases outcome : attempt.outcome registry with
  | ok report =>
    rw [outcome] at ends
    cases ends
  | error fault =>
    rw [outcome] at ends
    refine ⟨fault, rfl, ?_⟩
    cases fault <;> first | rfl | cases ends

/-- Verifying one program prints its entry, unless it ends the command. Entries are only ever added,
so what was printed for earlier programs stands. -/
theorem verifyOne_printed (registry : Registry) (attempt : Attempt) :
    ((verifyOne registry attempt.spec).run.run attempt.session).2.printed =
      attempt.session.printed ++
        if attempt.aborts registry then [] else [attempt.entry registry] := by
  have quiet := attempt.spec.quiet_verify registry attempt.session
  unfold verifyOne
  rw [Procedure.run_bind, Procedure.run_outcome]
  unfold aborts entry outcome
  cases ((attempt.spec.verify registry).run.run attempt.session).1 with
  | ok report => exact congrArg (· ++ _) quiet
  | error fault =>
    cases fault with
    | diverged program expected actual => exact congrArg (· ++ _) quiet
    | violation cause => exact congrArg (· ++ _) quiet
    | _ => exact quiet.trans (List.append_nil _).symm

end Attempt

section Attempts

variable {registry : Registry}

theorem map_spec_attempts (registry : Registry) (specs : List Spec) (session : Session) :
    (attempts registry specs session).map Attempt.spec = specs := by
  induction specs generalizing session with
  | nil => rfl
  | cons spec rest inductionHypothesis =>
    rw [attempts, List.map_cons, inductionHypothesis]

/-- The programs that are verified before the first one that ends the command. It is these that have
an entry in the output. -/
def handled (registry : Registry) (attempts : List Attempt) : List Attempt :=
  attempts.takeWhile fun attempt => !attempt.aborts registry

/-- Where no program ends the command, all are handled. -/
theorem handled_eq_self {attempts : List Attempt}
    (goesOn : ∀ attempt ∈ attempts, attempt.aborts registry = false) :
    handled registry attempts = attempts :=
  List.takeWhile_eq_self_iff.mpr fun attempt member => by rw [goesOn attempt member, Bool.not_false]

/-- Where no program ends the command, the findings say which ones do not pass. They come in the
order of the programs, one for each. -/
theorem mapM_finding_of_all {attempts : List Attempt}
    (goesOn : ∀ attempt ∈ attempts, attempt.aborts registry = false) :
    attempts.mapM (fun attempt => finding (attempt.outcome registry)) =
      .ok (attempts.map fun attempt => !attempt.passes registry) := by
  rw [mapM_eq_ok_iff, List.forall₂_map_right_iff, List.forall₂_same]
  exact fun attempt member => Attempt.finding_of_not_aborts (goesOn attempt member)

/-- The first program that ends the command does so with its fault. What any later program would
have answered plays no part. -/
theorem mapM_finding_of_first {attempts : List Attempt} {attempt : Attempt}
    (first : attempts.find? (fun attempt => attempt.aborts registry) = some attempt) :
    ∃ fault, attempt.outcome registry = .error fault ∧
      attempts.mapM (fun attempt => finding (attempt.outcome registry)) = .error fault := by
  induction attempts with
  | nil => cases first
  | cons next rest inductionHypothesis =>
    rw [List.find?_cons] at first
    rw [List.mapM_cons]
    cases ends : next.aborts registry with
    | true =>
      rw [ends] at first
      obtain rfl := Option.some.inj first
      obtain ⟨fault, outcome, found⟩ := Attempt.finding_of_aborts ends
      exact ⟨fault, outcome, by rw [found]; rfl⟩
    | false =>
      rw [ends] at first
      obtain ⟨fault, outcome, ended⟩ := inductionHypothesis first
      exact ⟨fault, outcome, by rw [Attempt.finding_of_not_aborts ends, ended]; rfl⟩

/-- Verifying programs one after another finds what each of them answers when its turn comes, and
prints the entries of those before the first one that ends the command.

Proof: by induction on the programs, with the session left free, since each program is verified in
the one that the programs before it leave. -/
theorem mapM_verifyOne_run (registry : Registry) (specs : List Spec) (session : Session) :
    ((specs.mapM (verifyOne registry)).run.run session).1 =
        (attempts registry specs session).mapM (fun attempt => finding (attempt.outcome registry)) ∧
      ((specs.mapM (verifyOne registry)).run.run session).2.printed =
        session.printed ++
          (handled registry (attempts registry specs session)).map (Attempt.entry registry) := by
  induction specs generalizing session with
  | nil => exact ⟨rfl, (List.append_nil _).symm⟩
  | cons spec rest inductionHypothesis =>
    have found : _ = finding (Attempt.outcome registry ⟨spec, session⟩) :=
      verifyOne_finding registry spec session
    have printed := Attempt.verifyOne_printed registry ⟨spec, session⟩
    rw [attempts, List.mapM_cons, List.mapM_cons, Procedure.run_bind, handled, List.takeWhile_cons]
    cases ran : (verifyOne registry spec).run.run session with
    | mk outcome between =>
      rw [ran] at found printed
      obtain rfl : outcome = finding _ := found
      cases ends : Attempt.aborts registry ⟨spec, session⟩ with
      | true =>
        obtain ⟨fault, _, found⟩ := Attempt.finding_of_aborts ends
        rw [ends, if_pos rfl] at printed
        rw [found]
        exact ⟨rfl, printed⟩
      | false =>
        rw [ends, if_neg Bool.false_ne_true] at printed
        rw [Attempt.finding_of_not_aborts ends]
        obtain ⟨same, entries⟩ := inductionHypothesis between
        dsimp only at printed ⊢
        rw [Procedure.run_bind, ← same]
        cases ranRest : (rest.mapM (verifyOne registry)).run.run between with
        | mk outcome after =>
          rw [ranRest] at entries
          dsimp only at entries
          rw [printed, List.append_assoc] at entries
          cases outcome with
          | error fault => exact ⟨rfl, entries⟩
          | ok failures => exact ⟨rfl, entries⟩

/-- How many programs pass. -/
def passed (registry : Registry) (attempts : List Attempt) : Nat :=
  attempts.countP fun attempt => attempt.passes registry

/-- How many programs fail. -/
def failures (registry : Registry) (attempts : List Attempt) : Nat :=
  attempts.countP fun attempt => !attempt.passes registry

theorem passed_add_failures (registry : Registry) (attempts : List Attempt) :
    passed registry attempts + failures registry attempts = attempts.length := by
  rw [List.length_eq_countP_add_countP fun attempt => attempt.passes registry, passed, failures]
  simp

/-- How many programs passed and how many failed. -/
def summary (registry : Registry) (attempts : List Attempt) : Text :=
  .ofString ("\n" ++ Numeral.decimal (passed registry attempts) ++ " passed, " ++
    Numeral.decimal (failures registry attempts) ++ " failed out of " ++
    Numeral.decimal attempts.length)

/-- The summary is the line that sums up a verification. The command counts failures and subtracts;
here both numbers are counted. -/
theorem summaryLine_eq (registry : Registry) (attempts : List Attempt) :
    (summaryLine (failures registry attempts) attempts.length : Text) =
      summary registry attempts := by
  have all := passed_add_failures registry attempts
  have rest : attempts.length - failures registry attempts = passed registry attempts := by omega
  rw [summaryLine, rest, summary]

/-- The entries of the programs that are handled. -/
def entries (registry : Registry) (attempts : List Attempt) : List Text :=
  (handled registry attempts).map (Attempt.entry registry)

end Attempts

end CommandLine

end SortBench
