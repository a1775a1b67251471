import SortBench.Sorting.Partition

/-!
# Quicksort by recursion

A span of at least two items is partitioned, then the part before the pivot is sorted, then
the part after it. The nesting of partitioned spans is bounded: a span that would have to be
partitioned beyond the bound ends the sort with the error for exhausted room. A span with
fewer than two items is never partitioned and needs no room.
-/

namespace SortBench.Sorting.Quick

variable {α ε : Type} {n : Nat}

/-- Sort a span at the given level, with room for so many levels from this one on. Without room the
error for that is answered, and what was exchanged until then stays exchanged. -/
def sort (order : Comparison α ε) (exhausted : ε) :
    (room depth : Nat) → Span n → Vector α n → Tally → Outcome α ε Unit n
  | 0, _, span, items, tally =>
    if 2 ≤ span.size then .failed items tally exhausted else .done items tally ()
  | room + 1, depth, span, items, tally =>
    if several : 2 ≤ span.size then
      have some : span.start < span.stop := by
        unfold Span.size at several
        omega
      (Partition.run order span some items (tally.reached depth)).andThen
        fun items tally pivot =>
          (sort order exhausted room (depth + 1) (span.before pivot) items tally).andThen
            fun items tally _ =>
              sort order exhausted room (depth + 1) (span.after pivot) items tally
    else
      .done items tally ()

end SortBench.Sorting.Quick
