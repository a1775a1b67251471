import SortBench.Program.Run
import SortBench.Proofs.Fault.Raised
import SortBench.Proofs.Sorting.Ascending

/-!
# What a run answers

A run reads the session only to find which reading of its literal is next, and the answer does
not depend on anything that it writes there. So the answer is a function of the registry, the
specification and the number of earlier readings: the input, then the bench that the algorithm
left and the judges accepted, then the digests of both. If any of these is missing, its cause is
raised.
-/

namespace SortBench

namespace Procedure

variable {β γ : Type}

/-- An answer that is given without touching the session; the cause of a failure is raised. This is
the one place at which a cause becomes what a caller meets. -/
theorem run_ofExcept (outcome : Except Fault β) (session : Session) :
    (ofExcept outcome).run.run session =
      (outcome.mapError (Fault.raised Numeral.usualLimit), session) :=
  rfl

/-- One procedure after another. What the first one has left in the session stays there if it
fails. -/
theorem run_bind (first : Procedure β) (next : β → Procedure γ) (session : Session) :
    (first >>= next).run.run session =
      match first.run.run session with
      | (.ok answer, after) => (next answer).run.run after
      | (.error fault, after) => (.error fault, after) := by
  show (ExceptT.bindCont next (first.run.run session).1).run (first.run.run session).2 = _
  obtain ⟨outcome, after⟩ := first.run.run session
  cases outcome with
  | ok answer => rfl
  | error fault => rfl

/-- A procedure after an answer that is given without touching the session. -/
theorem run_ofExcept_bind (outcome : Except Fault β) (next : β → Procedure γ) (session : Session) :
    (ofExcept outcome >>= next).run.run session =
      match outcome with
      | .ok answer => (next answer).run.run session
      | .error fault => (.error (fault.raised Numeral.usualLimit), session) := by
  rw [run_bind, run_ofExcept]
  cases outcome with
  | ok answer => rfl
  | error fault => rfl

/-- The outcome of a procedure as an answer of its own. -/
theorem run_outcome (procedure : Procedure β) (session : Session) :
    (outcome procedure).run.run session =
      (.ok (procedure.run.run session).1, (procedure.run.run session).2) :=
  rfl

/-- Procedures for the items of a list one after another, each of which answers by its item alone,
answer by the items, and the first failure is that of the whole. -/
theorem run_mapM {α : Type} {procedure : α → Procedure β} {answer : α → Except Fault β}
    {items : List α} (answers : ∀ item ∈ items, ∀ session,
      ((procedure item).run.run session).1 = answer item) (session : Session) :
    ((items.mapM procedure).run.run session).1 = items.mapM answer := by
  induction items generalizing session with
  | nil => rfl
  | cons item rest inductionHypothesis =>
    obtain ⟨first, others⟩ := List.forall_mem_cons.mp answers
    rw [List.mapM_cons, List.mapM_cons, run_bind, ← first session]
    cases ran : (procedure item).run.run session with
    | mk outcome between =>
      cases outcome with
      | error fault => rfl
      | ok given =>
        dsimp only
        rw [run_bind]
        have tail := inductionHypothesis others between
        cases ranRest : (rest.mapM procedure).run.run between with
        | mk outcome after =>
          rw [ranRest] at tail
          rw [← tail]
          cases outcome <;> rfl

end Procedure

/-- A judged sort ends well when the algorithm does and what it left is verified. -/
theorem Registry.sortJudged_eq_ok_iff {registry : Registry} {name : Text} {input : List Value}
    {bench : Bench} :
    registry.sortJudged name input = .ok bench ↔
      registry.sort name (Bench.ofList input) = (.ok (), bench) ∧
        Bench.verifySorted input bench.values.toList = .ok () := by
  unfold sortJudged
  obtain ⟨outcome, left⟩ := registry.sort name (Bench.ofList input)
  cases outcome with
  | error fault => simp
  | ok answer =>
    cases verdict : Bench.verifySorted input left.values.toList with
    | error fault =>
      simp only [verdict, Prod.mk.injEq, true_and]
      constructor
      · intro judged
        cases judged
      · rintro ⟨rfl, verified⟩
        exact absurd (verdict.symm.trans verified) (by simp)
    | ok accepted =>
      simp only [verdict, Except.ok.injEq, Prod.mk.injEq, true_and]
      constructor
      · rintro rfl
        exact ⟨rfl, verdict⟩
      · exact And.left

/-- A report has the values that it was made from, and both lists have digests. -/
theorem Report.ofRun_eq_ok {spec : Spec} {input : List Value} {bench : Bench} {report : Report}
    (reported : Report.ofRun spec input bench = .ok report) :
    report.input = input ∧ report.output = bench.values.toList ∧
      Canonical.digest report.input = .ok report.inputDigest ∧
        Canonical.digest report.output = .ok report.outputDigest := by
  unfold ofRun at reported
  split at reported
  · cases reported
  case h_2 inputDigested =>
    split at reported
    · cases reported
    case h_2 outputDigested =>
      cases reported
      exact ⟨rfl, rfl, inputDigested, outputDigested⟩

/-- Two lists that have digests can be reported; nothing else can go wrong then. -/
theorem Report.exists_ofRun (spec : Spec) {input : List Value} {bench : Bench}
    {inputDigest outputDigest : String} (first : Canonical.digest input = .ok inputDigest)
    (second : Canonical.digest bench.values.toList = .ok outputDigest) :
    ∃ report, Report.ofRun spec input bench = .ok report := by
  unfold ofRun
  rw [first, second]
  exact ⟨_, rfl⟩

namespace Spec

/-- Building the input counts a reading of the literal if it is read, and answers with the input
that comes next. The reading is counted even if the input is then refused. -/
theorem run_build (spec : Spec) (session : Session) :
    spec.build.run.run session =
      (((spec.input (session.readingsOf spec.name)).mapError .precondition).mapError
          (Fault.raised Numeral.usualLimit),
        if spec.readsLiteral then session.countReading spec.name else session) := by
  unfold build
  cases spec.readsLiteral <;> rfl

/-- What a run of a program comes to whose literal was read so often before: a report, or the cause
why there is none. -/
def outcome (registry : Registry) (spec : Spec) (earlier : Nat) : Except Fault Report :=
  match spec.input earlier with
  | .error cause => .error (.precondition cause)
  | .ok input =>
    match spec.sorted registry input with
    | .error fault => .error fault
    | .ok bench => Report.ofRun spec input bench

/-- The answer of such a run: what it comes to, the cause as it is raised. -/
def answer (registry : Registry) (spec : Spec) (earlier : Nat) : Except Fault Report :=
  (spec.outcome registry earlier).mapError (Fault.raised Numeral.usualLimit)

/-- A program is reported when its input was built, sorted and digested. -/
theorem answer_eq_ok_iff {registry : Registry} {spec : Spec} {earlier : Nat} {report : Report} :
    spec.answer registry earlier = .ok report ↔
      ∃ input bench, spec.input earlier = .ok input ∧ spec.sorted registry input = .ok bench ∧
        Report.ofRun spec input bench = .ok report := by
  rw [answer, Sorting.mapError_eq_ok, outcome]
  cases spec.input earlier with
  | error cause => simp
  | ok input =>
    cases sorted : spec.sorted registry input with
    | error fault => simp [sorted]
    | ok bench => simp [sorted]

/-- A run answers by its input, its algorithm and the digests alone. Of the session only one number
matters, that of the earlier readings; log and output do not. -/
theorem run_answer (registry : Registry) (spec : Spec) (session : Session) :
    ((spec.run registry).run.run session).1 =
      spec.answer registry (session.readingsOf spec.name) := by
  unfold run answer outcome
  rw [Procedure.run_bind, run_build]
  cases spec.input (session.readingsOf spec.name) with
  | error cause => rfl
  | ok input =>
    simp only [Sorting.mapError_ok, Procedure.run_ofExcept_bind]
    cases spec.sorted registry input with
    | error fault => rfl
    | ok bench => rfl

end Spec

end SortBench
