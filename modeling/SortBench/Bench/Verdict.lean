import SortBench.Fault.Basic
import SortBench.Value.Sameness

/-!
# Judging a result

Two independent tests. A list is *non-decreasing* when no value fails to be at most the next
one. A result is *verified* against the values it was made from when it holds the same
values, each as often, and no value in it is greater than the next one. Sameness of values
never fails; a comparison may be refused.
-/

namespace SortBench.Bench

/-- Whether every value is at most the next one. The test ends at the first pair that is not, so a
pair behind it that has no order is not noticed. -/
def isNonDecreasing : List Value → Except Clash Bool
  | left :: right :: rest =>
    match left.le? right with
    | .ok true => isNonDecreasing (right :: rest)
    | .ok false => .ok false
    | .error clash => .error clash
  | _ => .ok true

/-- Fail at the first value that is greater than the next one; the first value has the given
position. A comparison that is refused on the way is the failure instead. -/
def verifyOrder (index : Nat) : List Value → Except Fault Unit
  | left :: right :: rest =>
    match left.gt? right with
    | .ok true => .error (.violation (.descending index left right))
    | .ok false => verifyOrder (index + 1) (right :: rest)
    | .error clash => .error (.incomparable clash)
  | _ => .ok ()

/-- The marks of values in the order of marks. -/
def sortedMarks (values : List Value) : List Mark :=
  (values.map Value.mark).mergeSort Mark.le

/-- Whether two lists hold the same values, each as often. Sorted marks are looked for where
they are expected, so that the test is fast when it succeeds. -/
def isRearrangement (given result : List Value) : Bool :=
  (sortedMarks given).isPerm (sortedMarks result)

/-- The test does not depend on the order of marks. -/
theorem isRearrangement_iff (given result : List Value) :
    isRearrangement given result = true ↔
      (given.map Value.mark).Perm (result.map Value.mark) := by
  have first : (sortedMarks given).Perm (given.map Value.mark) := List.mergeSort_perm _ _
  have second : (sortedMarks result).Perm (result.map Value.mark) := List.mergeSort_perm _ _
  unfold isRearrangement
  rw [List.isPerm_iff]
  exact ⟨fun same => first.symm.trans (same.trans second),
    fun same => first.trans (same.trans second.symm)⟩

/-- Fail unless the result is a sorted permutation of the given values. The permutation is checked
first, so that values which were lost are reported even where the order is wrong too. -/
def verifySorted (given result : List Value) : Except Fault Unit :=
  if isRearrangement given result then verifyOrder 0 result
  else .error (.violation (.notPermutation given.length result.length))

end SortBench.Bench
