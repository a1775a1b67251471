import SortBench.Program.Sabotage
import SortBench.Proofs.Bench.Verdicts
import SortBench.Proofs.Digest.Conversion
import SortBench.Proofs.Program.Runs

/-!
# Reports of sorted programs are right

Nothing is assumed of the algorithm that a program names: it may leave any bench behind, or fail.
What is reported passed three tests, and no two of them would do. The result was compared with the
input as it was built, so that it holds the same values. Its neighbours were compared, which says
nothing where a value is not a number. And it has a digest, so that there is no such value.
-/

namespace SortBench

namespace Spec

/-- Whatever the algorithm does, a program that is sorted and reported has as its input the values
that were built, as its output the same values, each as often and in ascending order, and no value
that is not a number in either.

Nothing is assumed of the registry: an algorithm may lose items, invent some or leave them in any
order, and is then not reported. That the output ascends is asked of all pairs, though the judge
compares neighbours only; the digests, which undefined values do not have, close the gap.

Proof: a report is taken apart into what was built, what was judged and what was digested. The judge
gives the rearrangement and the order of neighbours, the digests give that all values are defined,
and together these give the order of all pairs. -/
theorem run_sound (registry : Registry) (spec : Spec) (session : Session) {name : Text}
    (sorts : spec.algorithm = some name) {report : Report}
    (ran : ((spec.run registry).run.run session).1 = .ok report) :
    spec.input (session.readingsOf spec.name) = .ok report.input ∧
      (∀ value : Value, report.output.countP value.same = report.input.countP value.same) ∧
        report.output.Pairwise (fun left right => left.le? right = .ok true) ∧
          ∀ value ∈ report.input ++ report.output, value.IsDefined := by
  rw [run_answer] at ran
  obtain ⟨input, bench, built, sorted, reported⟩ := answer_eq_ok_iff.mp ran
  obtain ⟨rfl, output, inputDigested, outputDigested⟩ := Report.ofRun_eq_ok reported
  unfold Spec.sorted at sorted
  rw [sorts] at sorted
  obtain ⟨_, verified⟩ := Registry.sortJudged_eq_ok_iff.mp sorted
  rw [← output, Bench.verifySorted_eq_ok_iff] at verified
  obtain ⟨same, chain⟩ := verified
  have inputDefined := Canonical.isDefined_of_digest inputDigested
  have outputDefined := Canonical.isDefined_of_digest outputDigested
  refine ⟨built, Bench.countP_same_eq same, Bench.pairwise_of_isChain outputDefined chain, ?_⟩
  intro value member
  exact (List.mem_append.mp member).elim (inputDefined value) (outputDefined value)

/-- A registry whose only algorithm reverses. -/
def reversing : Registry :=
  { entries := [("reverse", Sabotage.reverse.algorithm)] }

/-- A descending literal for it. -/
def descending : Spec :=
  { name := "descending"
    description := "Three values that need only be reversed"
    source := "literal"
    size := 3
    literal := { first := [.integer 2, .boolean true, .integer 0] }
    algorithm := some "reverse" }

/-- The reversed literal is reported, and is ascending. -/
theorem run_sound_descending :
    ∃ report, ((descending.run reversing).run.run {}).1 = .ok report ∧
      report.output.Pairwise fun left right => left.le? right = .ok true := by
  have verified : Bench.verifySorted [.integer 2, .boolean true, .integer 0]
      [.integer 0, .boolean true, .integer 2] = .ok () := by
    rw [Bench.verifySorted_eq_ok_iff]
    refine ⟨?_, ?_⟩
    · exact (List.reverse_perm [Value.integer 0, .boolean true, .integer 2]).map Value.mark
    · exact .cons_cons rfl (.cons_cons rfl (.singleton _))
  have reversed : reversing.sort "reverse" (Bench.ofList descending.literal.first) =
      (.ok (), Bench.ofList [.integer 0, .boolean true, .integer 2]) := by
    show Sabotage.reverse.algorithm _ = _
    simp [Sabotage.algorithm, Bench.ofList, descending]
  have sorted : reversing.sortJudged "reverse" descending.literal.first =
      .ok (Bench.ofList [.integer 0, .boolean true, .integer 2]) :=
    Registry.sortJudged_eq_ok_iff.mpr ⟨reversed, verified⟩
  obtain ⟨report, reported⟩ : ∃ report, Report.ofRun descending descending.literal.first
      (Bench.ofList [.integer 0, .boolean true, .integer 2]) = .ok report :=
    Report.exists_ofRun _ rfl rfl
  have ran : ((descending.run reversing).run.run {}).1 = .ok report := by
    rw [run_answer]
    exact answer_eq_ok_iff.mpr ⟨_, _, rfl, sorted, reported⟩
  exact ⟨report, ran, (run_sound _ descending {} rfl ran).2.2.1⟩

end Spec

end SortBench
