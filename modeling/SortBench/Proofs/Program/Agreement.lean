import SortBench.Proofs.Digest.Agreement
import SortBench.Proofs.Program.Algorithms

/-!
# The built-in algorithms agree

Equal numbers are left in different orders by different algorithms, and in the order of the input by
some. None of this can be seen afterwards: whatever the order in which the numbers were given, and
whichever of the built-in algorithms sorted them, the results agree.
-/

namespace SortBench

open Bench

/-- Each value of one list has the same value, perhaps spelled differently, for a partner in the
other; every value is the partner of exactly one. -/
def Value.Rearranged (left right : List Value) : Prop :=
  ∃ partners : List Value,
    List.Forall₂ (fun a b => a.same b = true) left partners ∧ partners.Perm right

/-- Rearranged lists have the same marks, each as often. Spellings are gone from here on. -/
theorem Value.Rearranged.marks {left right : List Value} (rearranged : Rearranged left right) :
    (left.map mark).Perm (right.map mark) := by
  obtain ⟨partners, paired, permuted⟩ := rearranged
  rw [(forall₂_same_iff left partners).mp paired]
  exact permuted.map mark

namespace Registry

/-- What built-in algorithms leave of rearranged numbers agrees. The two algorithms may be the same
or not, and each may count its work or not. -/
theorem agree_of_builtIn_sort {xs ys : List Value} {first second : Text}
    {tally other : Option Sorting.Tally} {left right : Bench}
    (numbers : ∀ value ∈ xs ++ ys, Value.IsOrdered .number value)
    (rearranged : Value.Rearranged xs ys)
    (leftSorted : builtIn.sort first { values := xs.toArray, tally } = (.ok (), left))
    (rightSorted : builtIn.sort second { values := ys.toArray, tally := other } = (.ok (), right)) :
    Canonical.Agree left.values.toList right.values.toList := by
  obtain ⟨leftSame, leftAscending⟩ := perm_and_pairwise_of_sort rfl
    (fun value member => numbers value (List.mem_append_left ys member)) leftSorted
  obtain ⟨rightSame, rightAscending⟩ := perm_and_pairwise_of_sort rfl
    (fun value member => numbers value (List.mem_append_right xs member)) rightSorted
  refine .of_ascending ?_ leftAscending rightAscending ?_
  · intro value member
    exact numbers value ((leftSame.append rightSame).subset member)
  · exact (leftSame.map _).trans (rearranged.marks.trans (rightSame.map _).symm)

end Registry

/-- A program that was reported had its input sorted by its algorithm, and the output is what this
left. A digest in a report can thus be traced to a sort. -/
theorem Spec.exists_sort_of_run {registry : Registry} {spec : Spec} {session : Session}
    {name : Text} {input : List Value} {report : Report} (sorts : spec.algorithm = some name)
    (built : spec.input (session.readingsOf spec.name) = .ok input)
    (ran : ((spec.run registry).run.run session).1 = .ok report) :
    ∃ bench, registry.sort name (Bench.ofList input) = (.ok (), bench) ∧
      Canonical.digest bench.values.toList = .ok report.outputDigest := by
  rw [run_answer] at ran
  obtain ⟨values, bench, again, sorted, reported⟩ := answer_eq_ok_iff.mp ran
  obtain rfl : input = values := Except.ok.inj (built.symm.trans again)
  obtain ⟨_, output, _, digested⟩ := Report.ofRun_eq_ok reported
  unfold Spec.sorted at sorted
  rw [sorts] at sorted
  exact ⟨bench, (Registry.sortJudged_eq_ok_iff.mp sorted).1, output ▸ digested⟩

namespace Registry

/-- Whatever the order in which defined numbers are given and however they are spelled, any two
built-in algorithms that end well leave results that agree, whether work is counted or not; and any
two programs that have them sorted and are reported have one digest of the output.

Proof: both results ascend and have the marks of the numbers given, each as often. The order of
marks is antisymmetric, so the marks are the same in the same order, and text and digest depend on
nothing else. -/
theorem sort_agrees {xs ys : List Value} (first second : Text)
    (numbers : ∀ value ∈ xs ++ ys, Value.IsOrdered .number value)
    (rearranged : Value.Rearranged xs ys) :
    (∀ (tally other : Option Sorting.Tally) (left right : Bench),
        builtIn.sort first { values := xs.toArray, tally } = (.ok (), left) →
        builtIn.sort second { values := ys.toArray, tally := other } = (.ok (), right) →
        Canonical.Agree left.values.toList right.values.toList) ∧
      ∀ (spec twin : Spec) (session later : Session) (report again : Report),
        spec.algorithm = some first → twin.algorithm = some second →
        spec.input (session.readingsOf spec.name) = .ok xs →
        twin.input (later.readingsOf twin.name) = .ok ys →
        ((spec.run .builtIn).run.run session).1 = .ok report →
        ((twin.run .builtIn).run.run later).1 = .ok again →
        report.outputDigest = again.outputDigest := by
  refine ⟨fun _ _ _ _ => agree_of_builtIn_sort numbers rearranged, ?_⟩
  intro spec twin session later report again sorts twinSorts built twinBuilt ran twinRan
  obtain ⟨left, leftSorted, leftDigest⟩ := Spec.exists_sort_of_run sorts built ran
  obtain ⟨right, rightSorted, rightDigest⟩ := Spec.exists_sort_of_run twinSorts twinBuilt twinRan
  have agree := agree_of_builtIn_sort numbers rearranged leftSorted rightSorted
  exact Except.ok.inj (leftDigest.symm.trans (agree.digest.trans rightDigest))

/-- Two spellings of zero and one, sorted by two algorithms. -/
theorem sort_agrees_spellings :
    ∃ left right, builtIn.sort "bubble" (Bench.ofList [.boolean true, .integer 0]) =
        (.ok (), left) ∧
      builtIn.sort "quick" (Bench.ofList [.real (.finite true 0 0), .integer 1]) =
        (.ok (), right) ∧
      Canonical.Agree left.values.toList right.values.toList := by
  have numbers : ∀ value ∈ [Value.boolean true, .integer 0] ++
      [.real (.finite true 0 0), .integer 1], Value.IsOrdered .number value := by
    simp [Value.IsOrdered, Value.IsDefined, Value.family?]
  have rearranged : Value.Rearranged [.boolean true, .integer 0]
      [.real (.finite true 0 0), .integer 1] :=
    ⟨[.integer 1, .real (.finite true 0 0)],
      .cons (beq_iff_eq.mpr rfl) (.cons (beq_iff_eq.mpr rfl) .nil), .swap ..⟩
  obtain ⟨left, leftSorted⟩ : ∃ left, builtIn.sort "bubble"
      (Bench.ofList [.boolean true, .integer 0]) = (.ok (), left) := ⟨_, rfl⟩
  obtain ⟨right, rightSorted⟩ : ∃ right, builtIn.sort "quick"
      (Bench.ofList [.real (.finite true 0 0), .integer 1]) = (.ok (), right) := ⟨_, rfl⟩
  exact ⟨left, right, leftSorted, rightSorted,
    (sort_agrees "bubble" "quick" numbers rearranged).1 _ _ left right leftSorted rightSorted⟩

end Registry

end SortBench
