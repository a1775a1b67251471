import SortBench.Proofs.Bench.Ranges
import SortBench.Proofs.Program.Algorithms
import SortBench.Proofs.Sorting.Lopsided

/-!
# Arrays that are sorted already

The built-in algorithms leave an array alone in which no value is greater than the next one; values
that tie keep their places, although the quicksorts are not stable. So sorting a second time, by
whatever algorithm, changes nothing. It is the worst case of the quicksorts all the same, and so is
an array in which every value is greater than the next one.
-/

namespace SortBench

open Sorting

namespace Bench

/-- The bench with work counted on top, if work is counted. -/
def counted (bench : Bench) (work : Tally) : Bench :=
  { bench with tally := bench.tally.map (·.merge work) }

variable {bench : Bench}

/-- A step that ends well, with its work on top of what was counted before. -/
theorem perform_done
    {step : Vector Value bench.values.size → Tally → Outcome Value Fault Unit bench.values.size}
    {after : Vector Value bench.values.size} {work : Tally}
    (ended : step bench.values.toVector (bench.tally.getD {}) =
      .done after ((bench.tally.getD {}).merge work) ()) :
    perform bench step = (.ok (), counted { bench with values := after.toArray } work) := by
  rw [perform, ended]
  cases count : bench.tally with
  | none => simp [Outcome.done, counted]
  | some tally => simp [Outcome.done, counted]

/-- The range of a whole array of several values is sorted as a span. -/
theorem sortRange_whole (several : 2 ≤ bench.values.size) :
    ∃ span : Span bench.values.size,
      span.start = 0 ∧ span.stop = bench.values.size ∧ ∀ sort : SpanSort,
        sortRange 0 ((bench.values.size : Int) - 1) sort bench = perform bench (sort span) := by
  obtain ⟨values, tally⟩ := bench
  simp only at several
  obtain ⟨few, _⟩ | ⟨_, outside, _⟩ | ⟨span, ⟨_, _, _, start, stop⟩, sorted⟩ :=
    sortRange_cases 0 ((values.size : Int) - 1) values
  · omega
  · omega
  · exact ⟨span, start, by simp only; omega, fun sort => sorted sort tally⟩

/-- Values that ascend in the list are items that ascend in every range of the array. -/
theorem ascending_of_pairwise
    (ascends : bench.values.toList.Pairwise fun left right => left.le? right = .ok true)
    {start stop : Nat} : Ascending order start stop bench.values.toVector := by
  intro i j before inside _ _
  exact mapError_eq_ok.mpr (List.pairwise_iff_getElem.mp ascends i j (by simp; omega)
    (by simpa using inside) before)

theorem falling_of_pairwise
    (descends : bench.values.toList.Pairwise fun left right => left.gt? right = .ok true)
    {start stop : Nat} : Falling order start stop bench.values.toVector := by
  intro i j first second _ before _
  obtain ⟨notBelow, above⟩ := Value.le?_of_greater (List.pairwise_iff_getElem.mp descends i j
    (by simpa using first) (by simpa using second) before)
  exact ⟨mapError_eq_ok.mpr notBelow, mapError_eq_ok.mpr above⟩

/-- The values of a list are the items of the array. -/
theorem holds_of_forall {among : Value → Prop} (all : ∀ value ∈ bench.values.toList, among value)
    {start stop : Nat} : Holds among start stop bench.values.toVector :=
  fun k inside _ _ => all _ (by simp)

end Bench

namespace Algorithm

open Bench

variable {bench : Bench}

/-- The exchanges of a quicksort of so many items that ascend: one for each comparison and one for
each partition. -/
def ascendingSwaps (size : Nat) : Nat :=
  size * (size - 1) / 2 + (size - 1)

/-- The quicksort over a stack of a whole array of several values, from what it does to the span of
all positions when nothing was counted before. -/
theorem quickIterative_of_span (several : 2 ≤ bench.values.size) :
    ∃ span : Span bench.values.size, span.size = bench.values.size ∧
      ∀ (after : Vector Value bench.values.size) (work : Tally),
        Pending.sort order span bench.values.toVector {} = .done after work () →
          quickIterative bench =
            (.ok (), counted { bench with values := after.toArray } work) := by
  obtain ⟨span, start, stop, sorted⟩ := sortRange_whole several
  refine ⟨span, by rw [Span.size, start, stop, Nat.sub_zero], fun after work ended => ?_⟩
  have onTop := Pending.sort_eq_onTop order tooDeep span bench.values.toVector (bench.tally.getD {})
  rw [ended] at onTop
  rw [quickIterative, quickSortIterative, sorted]
  exact perform_done onTop

section Ascending

variable (several : 2 ≤ bench.values.size)
  (ascends : bench.values.toList.Pairwise fun left right => left.le? right = .ok true)

include several ascends

/-- The bubble sort goes once over an ascending array and leaves it as it is. One pass without an
exchange is what ends it. -/
theorem bubble_of_ascends :
    bubble bench =
      (.ok (), bench.counted { comparisons := bench.values.size - 1, passes := 1 }) := by
  obtain ⟨family, ordered⟩ := Value.exists_family_of_pairwise (by simpa using several)
    (ascends.imp Or.inl)
  have held : Holds (Value.IsOrdered family) 0 bench.values.size bench.values.toVector :=
    holds_of_forall ordered
  have ascending : Ascending order 0 bench.values.size bench.values.toVector :=
    ascending_of_pairwise ascends
  rw [bubble, bubbleSort_inside _ bench (by omega) (by simp)]
  refine perform_done (Bubble.sort_of_notGreater order (by simpa using several) _ _ _ ?_)
  intro k first second _
  exact (order_ranks family).opposite (held k first (by omega) first)
    (held (k + 1) second (by omega) second)
    (ascending k (k + 1) (by omega) second (by omega) second)

/-- The quicksort over a stack compares every two values of an ascending array, each time with an
exchange of a value with itself, and leaves the array as it is. -/
theorem quickIterative_of_ascends :
    quickIterative bench =
      (.ok (), bench.counted
        (.oneByOne bench.values.size (ascendingSwaps bench.values.size))) := by
  obtain ⟨family, ordered⟩ := Value.exists_family_of_pairwise (by simpa using several)
    (ascends.imp Or.inl)
  obtain ⟨span, size, sorted⟩ := quickIterative_of_span several
  have ended := Pending.sort_of_ascending tooDeep (order_ranks family).answers
    (holds_of_forall ordered) (ascending_of_pairwise ascends : Ascending _ span.start span.stop _)
  rw [size] at ended
  exact sorted _ _ ended

omit several in
/-- The recursive quicksort leaves an ascending array as it is, even where it gives up: what it has
done by then are exchanges of values with themselves. -/
theorem quick_of_ascends : (quick bench).2.values = bench.values := by
  by_cases several : 2 ≤ bench.values.size
  · obtain ⟨span, _, _, sorted⟩ := sortRange_whole several
    rw [quick, quickSort, sorted]
    exact congrArg Vector.toArray (Quick.sort_kept tooDeep deepestLevel 1 span
      bench.values.toVector _ (ascending_of_pairwise ascends))
  · rw [quick, quickSort, sortRange_few _ _ _ _ (by omega)]

end Ascending

/-- The quicksort over a stack compares every two values of a descending array as well. How many
exchanges it makes is left open, as it depends on the length in a way of its own. -/
theorem quickIterative_of_descends (several : 2 ≤ bench.values.size)
    (descends : bench.values.toList.Pairwise fun left right => left.gt? right = .ok true) :
    ∃ after swaps, quickIterative bench =
      (.ok (), counted { bench with values := after } (.oneByOne bench.values.size swaps)) := by
  obtain ⟨family, ordered⟩ := Value.exists_family_of_pairwise (by simpa using several)
    (descends.imp fun greater => Or.inr (Value.le?_of_greater greater).2)
  obtain ⟨span, size, sorted⟩ := quickIterative_of_span several
  obtain ⟨after, swaps, ended⟩ := Pending.sort_of_falling tooDeep (order_ranks family).answers
    (holds_of_forall ordered) (falling_of_pairwise descends : Falling _ span.start span.stop _)
  rw [size] at ended
  exact ⟨after.toArray, swaps, sorted _ _ ended⟩

/-- The levels of a whole array under quicksort, from what the sort over a stack counts. There is
one level fewer than there are values, the most that any array can have. -/
theorem nesting_of_oneByOne {values after : Array Value} {swaps : Nat}
    (ended : quickIterative { values, tally := some {} } =
      (.ok (), counted { values := after, tally := some {} } (.oneByOne values.size swaps))) :
    nesting 0 ((values.size : Int) - 1) values = values.size - 1 := by
  rw [quickIterative] at ended
  rw [nesting, ended]
  simp [counted, Tally.empty_merge, Tally.oneByOne]

/-- With so many levels the recursive quicksort is the one over a stack, or gives up. -/
theorem quick_of_nesting {depth : Nat}
    (levels : nesting 0 ((bench.values.size : Int) - 1) bench.values = depth) :
    (depth ≤ deepestLevel → quick bench = quickIterative bench) ∧
      (deepestLevel < depth → (quick bench).1 = .error tooDeep) := by
  rw [← levels]
  obtain ⟨shallow, same⟩ | ⟨deep, gaveUp⟩ :=
    quickSort_cases 0 ((bench.values.size : Int) - 1) bench
  · exact ⟨fun _ => same, fun beyond => absurd beyond (Nat.not_lt_of_le shallow)⟩
  · exact ⟨fun shallow => absurd deep (Nat.not_lt_of_le shallow), fun _ => gaveUp⟩

end Algorithm

namespace Registry

open Bench Algorithm

/-- No name stands for an algorithm that moves a value of an ascending array. Unknown names are
included, as they are refused. -/
theorem builtIn_sort_kept (name : Text) {bench : Bench}
    (ascends : bench.values.toList.Pairwise fun left right => left.le? right = .ok true) :
    (builtIn.sort name bench).2.values = bench.values := by
  by_cases several : 2 ≤ bench.values.size
  · rw [sort]
    obtain ⟨_, found⟩ | ⟨_, found⟩ | ⟨_, found⟩ | ⟨_, found⟩ := builtIn_cases name <;> rw [found]
    · exact congrArg (fun outcome => outcome.2.values) (bubble_of_ascends several ascends)
    · exact quick_of_ascends ascends
    · exact congrArg (fun outcome => outcome.2.values) (quickIterative_of_ascends several ascends)
    · rfl
  · have same : (builtIn.sort name bench).2.values.toList.Perm bench.values.toList :=
      (sort_conserves name bench).perm
    apply Array.toList_inj.mp
    cases few : bench.values.toList with
    | nil => exact List.perm_nil.mp (few ▸ same)
    | cons value rest =>
      have alone : rest = [] := by
        have length := congrArg List.length few
        rw [Array.length_toList, List.length_cons] at length
        exact List.length_eq_zero_iff.mp (by omega)
      rw [few, alone] at same
      rw [alone]
      exact List.perm_singleton.mp same

/-- In an array of several values of which none is greater than the next one, every built-in
algorithm leaves every value where it is, tied values included: the bubble sort after one pass, the
quicksorts after the most work that they can take, the recursive one within its deepest level. They
take as much, but for the exchanges, where every value is greater than the next one. So what an
algorithm has made of ordered values is not changed by another.

Proof: in an ascending range each partition finds everything not greater than its last item, in a
descending one nothing. It takes out one item either way, so the division is lopsided throughout and
its work is known. -/
theorem builtIn_sort_presorted :
    (∀ bench : Bench, 2 ≤ bench.values.size →
        (bench.values.toList.IsChain fun left right => left.le? right = .ok true) →
        builtIn.sort "bubble" bench =
            (.ok (), bench.counted { comparisons := bench.values.size - 1, passes := 1 }) ∧
          builtIn.sort "quick_iterative" bench =
            (.ok (), bench.counted
              (.oneByOne bench.values.size (ascendingSwaps bench.values.size))) ∧
          (bench.values.size - 1 ≤ deepestLevel →
            builtIn.sort "quick" bench = builtIn.sort "quick_iterative" bench) ∧
          (deepestLevel < bench.values.size - 1 →
            (builtIn.sort "quick" bench).1 = .error tooDeep ∧
              (builtIn.sort "quick" bench).2.values = bench.values)) ∧
      (∀ bench : Bench, 2 ≤ bench.values.size →
        (bench.values.toList.IsChain fun left right => left.gt? right = .ok true) →
        (∃ after swaps, builtIn.sort "quick_iterative" bench =
            (.ok (), counted { bench with values := after }
              (.oneByOne bench.values.size swaps))) ∧
          (bench.values.size - 1 ≤ deepestLevel →
            builtIn.sort "quick" bench = builtIn.sort "quick_iterative" bench) ∧
          (deepestLevel < bench.values.size - 1 →
            (builtIn.sort "quick" bench).1 = .error tooDeep)) ∧
        ∀ (family : Value.Family) (first second : Text) (bench after : Bench),
          (∀ value ∈ bench.values.toList, Value.IsOrdered family value) →
            builtIn.sort first bench = (.ok (), after) →
              (builtIn.sort second after).2.values = after.values := by
  have rising : IsTrans Value fun left right => left.le? right = .ok true :=
    ⟨fun _ _ _ => Value.le?_trans⟩
  have sinking : IsTrans Value fun left right => left.gt? right = .ok true :=
    ⟨fun _ _ _ => Value.gt?_trans⟩
  refine ⟨?_, ?_, ?_⟩
  · intro bench several chain
    have ascends := List.isChain_iff_pairwise.mp chain
    have levels : nesting 0 ((bench.values.size : Int) - 1) bench.values = bench.values.size - 1 :=
      nesting_of_oneByOne (quickIterative_of_ascends several ascends)
    obtain ⟨shallow, deep⟩ := quick_of_nesting levels
    exact ⟨bubble_of_ascends several ascends, quickIterative_of_ascends several ascends, shallow,
      fun beyond => ⟨deep beyond, quick_of_ascends ascends⟩⟩
  · intro bench several chain
    have descends := List.isChain_iff_pairwise.mp chain
    obtain ⟨_, _, ended⟩ : ∃ after swaps,
        quickIterative { values := bench.values, tally := some {} } = _ :=
      quickIterative_of_descends several descends
    obtain ⟨shallow, deep⟩ := quick_of_nesting (nesting_of_oneByOne ended)
    exact ⟨quickIterative_of_descends several descends, shallow, deep⟩
  · intro family first second bench after ordered sorted
    obtain ⟨_, ascends⟩ := perm_and_pairwise_of_sort rfl ordered sorted
    exact builtIn_sort_kept second ascends

/-- Three items, two of which tie. -/
def tiedItems : Bench :=
  ofList [.item 0 5 "a", .item 1 5 "b", .item 2 7 "a"]

/-- Three numbers in the reverse order. -/
def fallingNumbers : Bench :=
  ofList [.integer 3, .real (.finite false 5 (-1)), .boolean true]

/-- Tied items stay where they are; numbers in the reverse order take as much work, and once they
are sorted they stay as well. -/
theorem builtIn_sort_presorted_ties :
    (tiedItems.values.toList.IsChain fun left right => left.le? right = .ok true) ∧
      builtIn.sort "quick" tiedItems =
        (.ok (), tiedItems.counted
          { comparisons := 3, swaps := 5, partitions := 2, maxDepth := 2 }) ∧
      (fallingNumbers.values.toList.IsChain fun left right => left.gt? right = .ok true) ∧
      (∃ after swaps, builtIn.sort "quick" fallingNumbers =
        (.ok (), counted { fallingNumbers with values := after }
          { comparisons := 3, swaps, partitions := 2, maxDepth := 2 })) ∧
      ∃ after, builtIn.sort "bubble" fallingNumbers = (.ok (), after) ∧
        (builtIn.sort "quick" after).2.values = after.values := by
  have ascends : tiedItems.values.toList.IsChain fun left right => left.le? right = .ok true := by
    decide
  have descends :
      fallingNumbers.values.toList.IsChain fun left right => left.gt? right = .ok true := by
    decide
  refine ⟨ascends, ?_, descends, ?_, ?_⟩
  · obtain ⟨_, ended, shallow, _⟩ := builtIn_sort_presorted.1 tiedItems (by decide) ascends
    exact (shallow (by decide)).trans ended
  · obtain ⟨⟨after, swaps, ended⟩, shallow, _⟩ :=
      builtIn_sort_presorted.2.1 fallingNumbers (by decide) descends
    exact ⟨after, swaps, (shallow (by decide)).trans ended⟩
  · refine ⟨_, rfl, builtIn_sort_presorted.2.2 .number "bubble" "quick" fallingNumbers _ ?_ rfl⟩
    simp [fallingNumbers, ofList, Value.IsOrdered, Value.IsDefined, Value.family?]

end Registry

end SortBench
