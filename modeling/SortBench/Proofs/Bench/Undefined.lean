import SortBench.Proofs.Bench.Ordered
import SortBench.Proofs.Sorting.Fences

/-!
# The bubble sort around values that are not a number

Numbers are compared by quantity, and one that is not a number is never greater than another, nor
another greater than it. It is a fence for the bubble sort: it keeps its position, and the numbers
on either side of it are sorted by themselves. The sort ends all the same, after one pass more than
the most disordered part between fences needs.
-/

namespace SortBench

/-- Whether a value is one that is not a number. It is a test and not a proposition, since lists are
split by it. -/
def Value.isUndefined : Value → Bool
  | real (.nan _) => true
  | _ => false

theorem Value.isDefined_iff (value : Value) : value.IsDefined ↔ value.isUndefined = false := by
  constructor
  · intro defined
    unfold isUndefined
    split
    case h_1 label => exact absurd rfl (defined label)
    case h_2 => rfl
  · rintro defined label rfl
    cases defined

theorem Value.quantity?_of_isUndefined {value : Value} (undefined : value.isUndefined = true) :
    value.quantity? = some .undefined := by
  unfold isUndefined at undefined
  split at undefined
  · rfl
  · cases undefined

/-- The undefined quantity is greater than none, and none is greater than it. A bubble therefore
neither carries it on nor carries anything past it. -/
theorem Quantity.gt_undefined {p q : Quantity} (either : p = .undefined ∨ q = .undefined) :
    p.gt q = false := by
  obtain rfl | rfl := either
  · rfl
  · cases p <;> rfl

namespace Bench

open Sorting

/-- Among numbers, those that are not a number are fences: no exchange is ever made across one, and
each stays where it is. -/
theorem order_fenced :
    order.Fenced (fun value => value.family? = some .number) Value.isUndefined := by
  intro a b left right either
  obtain ⟨p, first⟩ := Value.exists_quantity left
  obtain ⟨q, second⟩ := Value.exists_quantity right
  have undefined : p = .undefined ∨ q = .undefined := by
    refine either.imp ?_ ?_
    · intro undefined
      exact Option.some.inj (first.symm.trans (Value.quantity?_of_isUndefined undefined))
    · intro undefined
      exact Option.some.inj (second.symm.trans (Value.quantity?_of_isUndefined undefined))
  have compared : a.gt? b = .ok false := by
    rw [Value.gt?, Value.decide_of_quantities _ _ _ _ first second, Quantity.gt_undefined undefined]
  simp [Comparison.exceeds, show order.gt a b = .ok false from mapError_eq_ok.mpr compared]

/-- Numbers that are not fences have a total preorder, so each part between two fences is sorted as
if it stood alone. -/
theorem order_ranks_between :
    order.Ranks fun value => value.family? = some .number ∧ value.isUndefined = false := by
  have same : (fun value : Value => value.family? = some .number ∧ value.isUndefined = false) =
      Value.IsOrdered .number := by
    funext value
    rw [Value.IsOrdered, Value.isDefined_iff]
  rw [same]
  exact order_ranks .number

/-- The bubble sort of numbers, whether all of them are numbers or not, ends well, and does so by
itself: with a larger bound on its passes it does the same. Those that are not a number stay at
their positions, each part between them comes to stand in its stable ascending arrangement, and the
other values are as they were. In each pass every neighbouring pair is compared; there is one pass
more than the largest number of values of its own part that are greater than a value and stand
before it, which is at most as many as there are values, and an exchange for each inversion within a
part.

No order is assumed of the values, and none is claimed for the result as a whole: a greater part may
well stay in front of a smaller one.

Proof: a value that is not a number is a fence, across which a pass makes no exchange. A pass over
the whole is therefore a pass over each part, and the inversion tables of the parts are lowered side
by side. -/
theorem bubbleSort_undefined (size : Int) (bench : Bench)
    (inside : 2 ≤ size ∧ size ≤ bench.values.size)
    (numbers : ∀ value ∈ bench.values.toList.take size.toNat, value.family? = some .number) :
    ∃ after, bench.bubbleSort size = (.ok (), after) ∧
      (∀ (pairs : size.toNat - 1 < bench.values.size) (limit : Nat), size.toNat ≤ limit →
        perform bench (Bubble.passes order (size.toNat - 1) pairs limit) = (.ok (), after)) ∧
      ArrangesBetween order Value.isUndefined (bench.values.toList.take size.toNat)
        (after.values.toList.take size.toNat) ∧
      after.values.toList.drop size.toNat = bench.values.toList.drop size.toNat ∧
      Bubble.levelBetween order Value.isUndefined (bench.values.toList.take size.toNat) + 1 ≤ size ∧
      after.tally = bench.tally.map
        (·.merge (Bubble.workBetween order Value.isUndefined
          (bench.values.toList.take size.toNat))) := by
  have fits : size.toNat ≤ bench.values.size := by omega
  have several : 2 ≤ size.toNat := by omega
  obtain ⟨sorted, between, rest, bound, ended⟩ := Bubble.sort_between order_ranks_between
    order_fenced (order_kinds.tells .number) size.toNat several fits bench.values.toVector
    (bench.tally.getD {}) numbers
  have few : Bubble.levelBetween order Value.isUndefined (bench.values.toList.take size.toNat) + 1 ≤
    size.toNat := bound
  have performed (pairs : size.toNat - 1 < bench.values.size) (limit : Nat)
      (enough : size.toNat ≤ limit) :
      perform bench (Bubble.passes order (size.toNat - 1) pairs limit) =
        (.ok (), { values := sorted.toArray
                   tally := bench.tally.map (·.merge (Bubble.workBetween order Value.isUndefined
                     (bench.values.toList.take size.toNat))) }) := by
    rw [perform, ended pairs limit enough]
    cases bench.tally <;> rfl
  refine ⟨_, ?_, performed, between, rest, by omega, rfl⟩
  rw [bubbleSort_inside size bench (by omega) fits]
  have unfolded : Bubble.sort order size.toNat fits =
      Bubble.passes order (size.toNat - 1) (by omega) size.toNat := by
    funext items tally
    rw [Bubble.sort, dif_pos several]
  rw [unfolded]
  exact performed _ _ (Nat.le_refl _)

/-- Two parts of numbers with one that is not a number behind each, and a text behind all of
them. -/
def partsOfNumbers : Bench :=
  ofList [.integer 2, .integer 1, .real (.nan 0), .integer 3, .integer 2, .boolean true,
    .real (.nan 1), .text "x"]

/-- The second part takes two passes that make exchanges, the first one only one; a pass that makes
none is the third and last. -/
theorem bubbleSort_undefined_parts :
    (2 ≤ (7 : Int) ∧ (7 : Int) ≤ partsOfNumbers.values.size) ∧
      (∀ value ∈ partsOfNumbers.values.toList.take (7 : Int).toNat,
        value.family? = some .number) ∧
      ∃ after, partsOfNumbers.bubbleSort 7 = (.ok (), after) ∧
        ArrangesBetween order Value.isUndefined (partsOfNumbers.values.toList.take 7)
          (after.values.toList.take 7) ∧
        after.values.toList.drop 7 = [.text "x"] ∧
        after.tally = some { comparisons := 18, swaps := 4, passes := 3 } := by
  have inside : 2 ≤ (7 : Int) ∧ (7 : Int) ≤ partsOfNumbers.values.size := by decide
  have numbers : ∀ value ∈ partsOfNumbers.values.toList.take (7 : Int).toNat,
      value.family? = some .number := by decide
  refine ⟨inside, numbers, ?_⟩
  obtain ⟨after, ended, _, between, rest, _, counted⟩ :=
    bubbleSort_undefined 7 partsOfNumbers inside numbers
  exact ⟨after, ended, between, rest, counted.trans (by decide)⟩

end Bench

end SortBench
