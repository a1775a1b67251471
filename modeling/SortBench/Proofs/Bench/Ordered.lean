import SortBench.Proofs.Bench.Quicksorts
import SortBench.Proofs.Sorting.Settled

/-!
# Sorts of ordered values

The values of one family, without those that are not a number, have a total preorder. Where a
range holds only such values of one family, the bubble sort and the sort over a stack end well and
leave the range ascending; so does the recursive sort, unless it gives up.
-/

namespace SortBench.Bench

open Sorting

/-- The values at the positions of a range are ordered values of a family. The rest of the array is
not looked at and may hold anything. -/
def OrderedBetween (family : Value.Family) (low high : Int) (values : Array Value) : Prop :=
  ∀ (k : Nat) value, low ≤ k → k ≤ high → values[k]? = some value →
    Value.IsOrdered family value

/-- Of any two values at positions of a range one is not greater than the other, and no value is
greater than itself. Since not to be greater is transitive for all values, this is a total
preorder on the values of the range. -/
def TotalBetween (low high : Int) (values : Array Value) : Prop :=
  ∀ (i j : Nat) left right, low ≤ i → i ≤ high → low ≤ j → j ≤ high → values[i]? = some left →
    values[j]? = some right → left.le? right = .ok true ∨ right.le? left = .ok true

/-- The comparisons on the bench are those of a total preorder, on the ordered values of a family.
Everything that is proved about sorting by a total preorder applies through this one fact. -/
theorem order_ranks (family : Value.Family) : order.Ranks (Value.IsOrdered family) :=
  (Value.order_ranks family).mapError _

/-- A total preorder on the values of a range makes them ordered values of one family. So the
general condition, which names no kinds of values, is met in two ways only: by defined numbers and
by texts. -/
theorem TotalBetween.exists_family {low high : Int} {values : Array Value}
    (total : TotalBetween low high values) : ∃ family, OrderedBetween family low high values := by
  obtain ⟨family, ordered⟩ := Value.exists_family_of_total
    (fun value => ∃ k : Nat, low ≤ k ∧ k ≤ high ∧ values[k]? = some value)
    (by
      rintro left right ⟨i, iLower, iUpper, atLeft⟩ ⟨j, jLower, jUpper, atRight⟩
      exact total i j left right iLower iUpper jLower jUpper atLeft atRight)
  exact ⟨family, fun k value lower upper found => ordered value ⟨k, lower, upper, found⟩⟩

/-- The ordered values of a family have a total preorder. This is how the condition is met in
practice. -/
theorem OrderedBetween.total {family : Value.Family} {low high : Int} {values : Array Value}
    (ordered : OrderedBetween family low high values) : TotalBetween low high values := by
  intro i j left right iLower iUpper jLower jUpper atLeft atRight
  have ranks := Value.order_ranks family
  have leftOrdered := ordered i left iLower iUpper atLeft
  have rightOrdered := ordered j right jLower jUpper atRight
  obtain ⟨answer, answered⟩ := ranks.answers _ _ leftOrdered rightOrdered
  cases answer with
  | true => exact Or.inl answered
  | false => exact Or.inr (ranks.total leftOrdered rightOrdered answered)

/-- No value of a range is greater than one at a later position of the range, and each two of them
have an order. -/
def AscendingBetween (low high : Int) (values : Array Value) : Prop :=
  ∀ (i j : Nat) left right, low ≤ i → i < j → j ≤ high → values[i]? = some left →
    values[j]? = some right → left.le? right = .ok true

theorem OrderedBetween.holds {family : Value.Family} {low high : Int} {values : Array Value}
    (ordered : OrderedBetween family low high values) (lower : 0 ≤ low) {start stop : Nat}
    (first : low.toNat ≤ start) (last : stop ≤ high + 1) :
    Holds (Value.IsOrdered family) start stop values.toVector := by
  intro k inside kLower kUpper
  refine ordered k _ (by omega) (by omega) ?_
  rw [Vector.getElem_mk, Array.getElem?_eq_getElem]

/-- Items that ascend at the positions of a span ascend in the range of the array. Results about
vectors come back to arrays by this. -/
theorem AscendingBetween.of_ascending {n : Nat} {low high : Int} {items : Vector Value n}
    {start stop : Nat} (ascending : Ascending order start stop items)
    (first : start ≤ low.toNat) (last : high + 1 ≤ stop) :
    AscendingBetween low high items.toArray := by
  intro i j left right lower before upper atLeft atRight
  obtain ⟨iInside, rfl⟩ := Array.getElem?_eq_some_iff.mp atLeft
  obtain ⟨jInside, rfl⟩ := Array.getElem?_eq_some_iff.mp atRight
  have inside : j < n := by simpa using jInside
  exact mapError_eq_ok.mp (ascending i j before inside (by omega) (by omega))

/-- The sort of a number of items that the array has is done on the bench: both checks are met, and
what is left is the sort of the vector. -/
theorem bubbleSort_inside (size : Int) (bench : Bench)
    (inside : 0 ≤ size ∧ size ≤ bench.values.size) (fits : size.toNat ≤ bench.values.size) :
    bench.bubbleSort size = perform bench (Bubble.sort order size.toNat fits) := by
  unfold bubbleSort
  split
  case h_1 cause violated =>
    unfold requireSize at violated
    rw [dif_neg (by omega), dif_neg (by omega)] at violated
    cases violated
  case h_2 => rfl

/-- The bubble sort of ordered values of a family ends well and leaves them ascending. The number of
items may be smaller than the array, and then only those are in order. -/
theorem bubbleSort_ascending {family : Value.Family} (size : Int) (bench : Bench)
    (inside : 0 ≤ size ∧ size ≤ bench.values.size)
    (ordered : OrderedBetween family 0 (size - 1) bench.values) :
    ∃ after, bench.bubbleSort size = (.ok (), after) ∧
      AscendingBetween 0 (size - 1) after.values := by
  have held : Holds (Value.IsOrdered family) 0 size.toNat bench.values.toVector :=
    ordered.holds (Int.le_refl 0) (Nat.le_refl _) (by omega)
  have fits : size.toNat ≤ bench.values.size := by omega
  obtain ⟨sorted, counted, ended, ascending⟩ := Bubble.sort_ascending (order_ranks family)
    size.toNat fits bench.values.toVector (bench.tally.getD {}) held
  rw [bubbleSort_inside size bench inside fits, perform, ended]
  exact ⟨_, rfl, .of_ascending ascending (Nat.zero_le _) (by omega)⟩

/-- The sort over a stack of ordered values of a family ends well and leaves them ascending. A range
that runs backwards is in order as it is, so only other ranges have to lie in the array. -/
theorem quickSortIterative_ascending {family : Value.Family} (low high : Int) (bench : Bench)
    (inside : low < high → 0 ≤ low ∧ high < bench.values.size)
    (ordered : OrderedBetween family low high bench.values) :
    ∃ after, bench.quickSortIterative low high = (.ok (), after) ∧
      AscendingBetween low high after.values := by
  obtain ⟨values, tally⟩ := bench
  unfold quickSortIterative
  obtain ⟨few, kept⟩ | ⟨several, outside, _⟩ |
      ⟨span, ⟨several, lower, upper, first, last⟩, sorted⟩ :=
    sortRange_cases low high values
  · rw [kept]
    exact ⟨_, rfl, fun _ _ _ _ _ _ _ => by omega⟩
  · exact absurd (inside several) outside
  · have held : Holds (Value.IsOrdered family) span.start span.stop values.toVector :=
      ordered.holds lower (by omega) (by omega)
    obtain ⟨after, counted, ended⟩ : ∃ after counted, Quick.sort order tooDeep span.size 1 span
        values.toVector (tally.getD {}) = .done after counted () :=
      Quick.sort_completes (order_ranks family).answers _ _ _ (Nat.le_refl _) _ _ held
    have ascending := Quick.sort_ascending (order_ranks family) _ _ _ _ _ held ended
    rw [← Pending.sort_eq_quick order tooDeep _ _ (Nat.le_refl _)] at ended
    rw [sorted]
    unfold perform
    simp only [ended]
    exact ⟨_, rfl, .of_ascending ascending (by omega) (by omega)⟩

/-- The recursive sort of ordered values of a family does so as well, or gives up, and it is the
depth of the divisions alone that decides which. Where it gives up nothing is said of the order of
what it leaves. -/
theorem quickSort_ascending {family : Value.Family} (low high : Int) (bench : Bench)
    (inside : low < high → 0 ≤ low ∧ high < bench.values.size)
    (ordered : OrderedBetween family low high bench.values) :
    (deepestLevel < nesting low high bench.values ∧
        (bench.quickSort low high).1 = .error tooDeep) ∨
      nesting low high bench.values ≤ deepestLevel ∧
        ∃ after, bench.quickSort low high = (.ok (), after) ∧
          AscendingBetween low high after.values := by
  obtain ⟨shallow, same⟩ | deep := quickSort_cases low high bench
  · rw [same]
    exact Or.inr ⟨shallow, quickSortIterative_ascending low high bench inside ordered⟩
  · exact Or.inl deep

end SortBench.Bench
