import SortBench.Proofs.Bench.Quicksorts
import SortBench.Proofs.Sorting.Exchanges

/-!
# Operations conserve the items

Every operation on the bench, however it ends, leaves the same items, each once, and leaves those
outside its own range where they were. A refused operation leaves the whole bench as it is. The
rest follows from the sorts, which only exchange items; nothing is asked of the values.
-/

namespace SortBench.Bench

open Sorting

/-- The array has the same items as before, each once, and the same ones at the positions that are
not of a class. The second part is what lets operations on different parts of one array be taken
apart. -/
structure Conserves (touched : Nat → Prop) (before after : Array Value) : Prop where
  /-- No item is lost, added or changed. -/
  perm : after.toList.Perm before.toList
  /-- Only items at the positions of the class may have moved. -/
  elsewhere : ∀ k, ¬ touched k → after[k]? = before[k]?

namespace Conserves

variable {touched : Nat → Prop} {before between after : Array Value}

/-- An array that is left as it is. This is the case of every refusal. -/
theorem nothing (touched : Nat → Prop) (values : Array Value) :
    Conserves touched values values :=
  ⟨.refl _, fun _ _ => rfl⟩

/-- More positions may have been touched than were. Operations are compared on a class of positions
that they have in common. -/
theorem widen {wider : Nat → Prop} (conserves : Conserves touched before after)
    (within : ∀ k, touched k → wider k) : Conserves wider before after :=
  ⟨conserves.perm, fun k beyond => conserves.elsewhere k fun inner => beyond (within k inner)⟩

/-- Exchanges within a range conserve the items and touch no position outside the range. All
operations change an array by exchanges only, so this is where each of the results below begins. -/
theorem of_exchanged {n start stop : Nat} {items sorted : Vector Value n}
    (exchanged : Exchanged start stop items sorted)
    (within : ∀ k, start ≤ k → k < stop → touched k) :
    Conserves touched items.toArray sorted.toArray := by
  refine ⟨exchanged.perm.toList, ?_⟩
  intro k beyond
  rw [Vector.getElem?_toArray, Vector.getElem?_toArray]
  by_cases inside : k < n
  · have outside : k < start ∨ stop ≤ k := by
      by_contra inner
      exact beyond (within k (by omega) (by omega))
    rw [Vector.getElem?_eq_getElem inside, Vector.getElem?_eq_getElem inside,
      exchanged.outside inside outside]
  · rw [Vector.getElem?_eq_none (Nat.le_of_not_lt inside),
      Vector.getElem?_eq_none (Nat.le_of_not_lt inside)]

end Conserves

/-- A step that exchanges positions of a range touches no other position of the bench. How the step
ends makes no difference, as the bench keeps the items that a failed step has left. -/
theorem perform_conserves {β : Type} {touched : Nat → Prop} {start stop : Nat} (bench : Bench)
    (step : Vector Value bench.values.size → Tally → Outcome Value Fault β bench.values.size)
    (exchanges : ∀ items tally, Exchanged start stop items (step items tally).items)
    (within : ∀ k, start ≤ k → k < stop → touched k) :
    Conserves touched bench.values (perform bench step).2.values :=
  .of_exchanged (exchanges bench.values.toVector _) within

/-- An exchange touches its two positions. Where one of them is out of bounds it touches neither. -/
theorem swap_conserves (a b : Int) (bench : Bench) :
    Conserves (fun k => k = a ∨ k = b) bench.values (swap a b bench).2.values := by
  unfold swap
  split
  · exact .nothing _ _
  case h_2 first _ =>
    split
    · exact .nothing _ _
    case h_2 second _ =>
      refine ⟨(Array.swap_perm _ _).toList, ?_⟩
      intro k beyond
      have apart : a.toNat ≠ k ∧ b.toNat ≠ k := by omega
      rw [Array.getElem?_swap, if_neg apart.2, if_neg apart.1]

/-- The bubble sort touches the part that it sorts, also when a comparison is refused in the middle
of a pass. -/
theorem bubbleSort_conserves (size : Int) (bench : Bench) :
    Conserves (fun k => k < size) bench.values (bubbleSort size bench).2.values := by
  unfold bubbleSort
  split
  · exact .nothing _ _
  · exact perform_conserves bench _ (fun _ _ => Bubble.sort_exchanged ..) (by omega)

theorem partition_conserves (low high : Int) (bench : Bench) :
    Conserves (fun k => low ≤ k ∧ k ≤ high) bench.values (partition low high bench).2.values := by
  have exchanges {n : Nat} (span : Span n) (some : span.start < span.stop) (items : Vector Value n)
      (tally : Tally) :
      Exchanged span.start span.stop items
        ((Partition.run order span some items tally).andThen fun items tally position =>
          .done items tally position.index).items :=
    Outcome.andThen_items _ _ (Partition.run_exchanged ..) fun _ _ _ kept => kept
  unfold partition
  split
  · exact .nothing _ _
  · split
    · exact .nothing _ _
    · refine perform_conserves bench _ (exchanges _ _) ?_
      simp only [span]
      omega

/-- A sort of a range touches the range, if it exchanges the items of its span only. The checks of
the range and the conversion to a span are the same for both quicksorts, so they are gone through
once, here. -/
theorem sortRange_conserves (low high : Int) (sort : SpanSort)
    (exchanges : ∀ {n} (span : Span n) items tally,
      Exchanged span.start span.stop items (sort span items tally).items) (bench : Bench) :
    Conserves (fun k => low ≤ k ∧ k ≤ high) bench.values
      (sortRange low high sort bench).2.values := by
  unfold sortRange
  split
  · exact .nothing _ _
  · split
    · exact .nothing _ _
    · refine perform_conserves bench _ (exchanges _) ?_
      simp only [span]
      omega

/-- The recursive quicksort touches its range, also when it gives up for want of levels and leaves a
part of the range unsorted. -/
theorem quickSort_conserves (low high : Int) (bench : Bench) :
    Conserves (fun k => low ≤ k ∧ k ≤ high) bench.values (quickSort low high bench).2.values :=
  sortRange_conserves low high _ (Quick.sort_exchanged order tooDeep deepestLevel 1) bench

theorem quickSortIterative_conserves (low high : Int) (bench : Bench) :
    Conserves (fun k => low ≤ k ∧ k ≤ high) bench.values
      (quickSortIterative low high bench).2.values :=
  sortRange_conserves low high _ (Pending.sort_exchanged order tooDeep) bench

end SortBench.Bench
