import SortBench.Proofs.Bench.Ordered
import SortBench.Proofs.Sorting.Passes

/-!
# The bubble sort to the letter

Where a total preorder compares the first values of an array, the bubble sort of them is known in
every respect: what becomes of the values, of the others, and of the tally. The values come to stand
in the one ascending arrangement that keeps the order of those that are equal but not the same, such
as items with one key and different tags.
-/

namespace SortBench.Bench

open Sorting

/-- Ordered values at the positions below a size are the first values of the array. The bubble sort
is given a number of items and not a range, and its specification is about a prefix of the list. -/
theorem OrderedBetween.first {family : Value.Family} {size : Int} {values : Array Value}
    (ordered : OrderedBetween family 0 (size - 1) values) :
    ∀ value ∈ values.toList.take size.toNat, Value.IsOrdered family value := by
  intro value member
  obtain ⟨k, inside, rfl⟩ := List.mem_take_iff_getElem.mp member
  apply ordered k
  · omega
  · omega
  · simp

/-- The bubble sort of values that a total preorder compares ends well. The first values are in
their stable ascending arrangement afterwards, of which there is only one, the others are as they
were, and the tally has grown by one pass more than the highest entry of the inversion table, if
there are two values or more, with a comparison for each neighbouring pair in each pass, and by an
exchange for each inversion.

So nothing about the run is left open: not the order of equal values, not what stands behind the
part that is sorted, and none of the counters, including that of the level, which stays. The values
may be of any one family that is ordered, and the bench may hold others beyond the size.

Proof: each pass lowers every entry of the inversion table by one, down to zero, and makes as many
exchanges as there were entries above zero. So the table tells how many passes there are, and its
sum how many exchanges. -/
theorem bubbleSort_exact (size : Int) (bench : Bench)
    (inside : 0 ≤ size ∧ size ≤ bench.values.size)
    (total : TotalBetween 0 (size - 1) bench.values) :
    ∃ after, bench.bubbleSort size = (.ok (), after) ∧
      StablyArranges order (bench.values.toList.take size.toNat)
        (after.values.toList.take size.toNat) ∧
      (∀ arranged, StablyArranges order (bench.values.toList.take size.toNat) arranged →
        arranged = after.values.toList.take size.toNat) ∧
      after.values.toList.drop size.toNat = bench.values.toList.drop size.toNat ∧
      after.tally =
        bench.tally.map (·.merge (Bubble.work order (bench.values.toList.take size.toNat))) := by
  obtain ⟨family, ordered⟩ := total.exists_family
  have fits : size.toNat ≤ bench.values.size := by omega
  obtain ⟨sorted, ended, arranges, rest⟩ := Bubble.sort_arranged (order_ranks family) size.toNat
    fits bench.values.toVector (bench.tally.getD {}) ordered.first
  refine ⟨{ values := sorted.toArray
            tally := bench.tally.map
              (·.merge (Bubble.work order (bench.values.toList.take size.toNat))) },
    ?_, arranges, ?_, rest, rfl⟩
  · rw [bubbleSort_inside size bench inside fits, perform, ended]
    cases bench.tally <;> rfl
  · intro arranged other
    exact arranges.unique (order_ranks family) ordered.first other

/-- Items of two keys, two of each, in front of the absent value. Items with one key are different
values, so that a sort that exchanged them would be seen to. -/
def mixedKeys : Bench :=
  ofList [.item 0 2 "a", .item 1 1 "b", .item 2 2 "c", .item 3 1 "d", .absent]

/-- The items of the higher key are each carried past those of the lower one in three passes, and
the absent value is not compared. It could not be: a comparison with it is refused. -/
theorem bubbleSort_exact_mixedKeys :
    (0 ≤ (4 : Int) ∧ (4 : Int) ≤ mixedKeys.values.size) ∧ TotalBetween 0 3 mixedKeys.values ∧
      ∃ after, mixedKeys.bubbleSort 4 = (.ok (), after) ∧
        StablyArranges order (mixedKeys.values.toList.take 4) (after.values.toList.take 4) ∧
        after.values.toList.drop 4 = [.absent] ∧
        after.tally = some { comparisons := 9, swaps := 3, passes := 3 } := by
  have inside : 0 ≤ (4 : Int) ∧ (4 : Int) ≤ mixedKeys.values.size := by decide
  have ordered : OrderedBetween .item 0 3 mixedKeys.values := by
    intro k value lower upper found
    obtain rfl | rfl | rfl | rfl : k = 0 ∨ k = 1 ∨ k = 2 ∨ k = 3 := by omega
    all_goals
      cases found
      exact ⟨rfl, nofun⟩
  refine ⟨inside, ordered.total, ?_⟩
  obtain ⟨after, ended, arranges, _, rest, counted⟩ :=
    bubbleSort_exact 4 mixedKeys inside ordered.total
  exact ⟨after, ended, arranges, rest, counted.trans (by decide)⟩

end SortBench.Bench
