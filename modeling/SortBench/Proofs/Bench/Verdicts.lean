import Mathlib.Data.List.Chain
import SortBench.Bench.Verdict
import SortBench.Proofs.Fault.Raised
import SortBench.Proofs.Value.Families

/-!
# What the verdicts say

A result is verified when it holds the values that were given, each as often, and no value in it
is greater than the next one. The second test looks at neighbours only, and it passes over values
that are not a number. Among defined values it says that the whole list is ascending, since not to
be greater is transitive.
-/

namespace SortBench.Bench

/-- The order is verified when no value is greater than the next one, wherever the counting of
positions begins. Each of these comparisons must also be answered: a refused one is not a
verdict. -/
theorem verifyOrder_eq_ok_iff (index : Nat) (values : List Value) :
    verifyOrder index values = .ok () ↔
      values.IsChain fun left right => left.gt? right = .ok false := by
  fun_induction verifyOrder index values with
  | case1 index left right rest greater => simp [greater]
  | case2 index left right rest notGreater inductionHypothesis =>
    simp [notGreater, inductionHypothesis]
  | case3 index left right rest clash refused => simp [refused]
  | case4 values index few =>
    cases values with
    | nil => simp
    | cons left rest =>
      cases rest with
      | nil => simp
      | cons right rest => exact absurd rfl (few left right rest)

/-- A verified result holds the given values, each as often, and no value in it is greater than the
next one. Neighbours are all that is compared; what follows for other pairs depends on the values,
and is stated where they are defined. -/
theorem verifySorted_eq_ok_iff (given result : List Value) :
    verifySorted given result = .ok () ↔
      (given.map Value.mark).Perm (result.map Value.mark) ∧
        result.IsChain fun left right => left.gt? right = .ok false := by
  unfold verifySorted
  rw [← isRearrangement_iff, ← verifyOrder_eq_ok_iff 0]
  split
  case isTrue same => simp [same]
  case isFalse differs => simp [differs]

/-- Every two values of a list have an order, also a value with itself. The order may be answered
with no both ways, as it is for values that are not a number. -/
def Comparable (values : List Value) : Prop :=
  values.Pairwise fun left right => ∃ answer, left.le? right = .ok answer

/-- Values of one family have an order. A family is all that a comparison looks at before it looks
at the quantities. -/
theorem Comparable.of_family {family : Value.Family} {values : List Value}
    (belong : ∀ value ∈ values, value.family? = some family) : Comparable values :=
  List.pairwise_of_forall_mem_list fun left leftMember right rightMember =>
    (Value.decide_answers_iff ..).mpr ⟨family, belong left leftMember, belong right rightMember⟩

/-- The order of comparable values is verified, or else one of them is greater than the next one; no
comparison is refused. -/
theorem verifyOrder_of_comparable (index : Nat) {values : List Value}
    (comparable : Comparable values) :
    verifyOrder index values = .ok () ∨ ∃ position left right,
      verifyOrder index values = .error (.violation (.descending position left right)) ∧
        left ∈ values ∧ right ∈ values := by
  fun_induction verifyOrder index values with
  | case1 index left right rest greater =>
    exact Or.inr ⟨index, left, right, rfl, by simp, by simp⟩
  | case2 index left right rest notGreater inductionHypothesis =>
    obtain verified | ⟨position, first, second, descends, firstMember, secondMember⟩ :=
      inductionHypothesis comparable.of_cons
    · exact Or.inl verified
    · exact Or.inr ⟨position, first, second, descends, List.mem_cons_of_mem _ firstMember,
        List.mem_cons_of_mem _ secondMember⟩
  | case3 index left right rest clash refused =>
    have ordered : ∃ answer, left.le? right = .ok answer :=
      List.rel_of_pairwise_cons comparable List.mem_cons_self
    have answered : ∃ answer, left.gt? right = .ok answer :=
      (Value.decide_answers_iff ..).mpr ((Value.decide_answers_iff ..).mp ordered)
    simp [refused] at answered
  | case4 => exact Or.inl rfl

/-- Values of one family are verified or violate a condition of the judge itself. Integers of any
size are named only where the result is a rearrangement, and they are its own. So a judge that is
given short integers raises what it finds, whatever the algorithm left. -/
theorem verifySorted_of_family {family : Value.Family} (given : List Value) {result : List Value}
    (belong : ∀ value ∈ result, value.family? = some family) :
    verifySorted given result = .ok () ∨ ∃ cause,
      verifySorted given result = .error (.violation cause) ∧
        (∀ rule detail, cause ≠ .stated rule detail) ∧
        ∀ number ∈ cause.numbers, (given.map Value.mark).Perm (result.map Value.mark) ∧
          ∃ value ∈ result, Violation.shownNumber? value = some number := by
  unfold verifySorted
  split
  case isTrue same =>
    rw [isRearrangement_iff] at same
    obtain verified | ⟨position, left, right, descends, leftMember, rightMember⟩ :=
      verifyOrder_of_comparable 0 (Comparable.of_family belong)
    · exact Or.inl verified
    · refine Or.inr ⟨_, descends, by simp, fun number named => ⟨same, ?_⟩⟩
      simp only [Violation.numbers, List.mem_append, Option.mem_toList] at named
      obtain shown | shown := named
      · exact ⟨left, leftMember, shown⟩
      · exact ⟨right, rightMember, shown⟩
  case isFalse => exact Or.inr ⟨_, rfl, by simp, by simp [Violation.numbers]⟩

theorem countP_same_eq {given result : List Value}
    (same : (given.map Value.mark).Perm (result.map Value.mark)) (value : Value) :
    result.countP value.same = given.countP value.same := by
  have counted := same.countP_eq (value.mark == ·)
  rw [List.countP_map, List.countP_map] at counted
  exact counted.symm

/-- Defined values of which none is greater than the next one are ascending. This is where being
defined is used: it turns the answer that a value is not greater into the answer that it is at most
the other, which is transitive. -/
theorem pairwise_of_isChain {values : List Value}
    (defined : ∀ value ∈ values, value.IsDefined)
    (chain : values.IsChain fun left right => left.gt? right = .ok false) :
    values.Pairwise fun left right => left.le? right = .ok true := by
  have transitive : IsTrans Value fun left right => left.le? right = .ok true :=
    ⟨fun _ _ _ => Value.le?_trans⟩
  rw [← List.isChain_iff_pairwise]
  apply chain.imp_of_mem_imp
  intro left right leftMember rightMember
  exact Value.le?_of_gt? (defined left leftMember) (defined right rightMember)

end SortBench.Bench
