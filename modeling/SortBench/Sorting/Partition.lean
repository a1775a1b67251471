import SortBench.Sorting.Comparison
import SortBench.Sorting.Outcome

/-!
# Partition around the last item

The last item of a span is the pivot. A scan over the other items moves those not greater
than the pivot to the front, in their order, by exchanges; a last exchange puts the pivot
behind them. Only the span is read or written: the positions handed on carry the proof that
they lie in it.
-/

namespace SortBench.Sorting

/-- A span of the positions of `n` items: from `start` up to, but not including, `stop`. It carries
the proof that it lies among them, so no position of a span is ever out of bounds. -/
structure Span (n : Nat) where
  /-- The first position. -/
  start : Nat
  /-- The position after the last. -/
  stop : Nat
  /-- A span has no negative size. -/
  ordered : start ≤ stop
  /-- A span ends within the items. -/
  inside : stop ≤ n

namespace Span

variable {n : Nat}

/-- The number of positions of a span. -/
def size (span : Span n) : Nat :=
  span.stop - span.start

/-- A position of a span. -/
structure Position (span : Span n) where
  /-- The position itself. -/
  index : Nat
  /-- It does not come before the span. -/
  lower : span.start ≤ index
  /-- It does not come after the span. -/
  upper : index < span.stop

/-- The part of a span before one of its positions. -/
def before (span : Span n) (position : span.Position) : Span n :=
  { start := span.start
    stop := position.index
    ordered := position.lower
    inside := Nat.le_trans (Nat.le_of_lt position.upper) span.inside }

/-- The part of a span after one of its positions. -/
def after (span : Span n) (position : span.Position) : Span n :=
  { start := position.index + 1
    stop := span.stop
    ordered := position.upper
    inside := span.inside }

end Span

namespace Partition

variable {α ε : Type} {n : Nat}

/-- Compare `remaining` items from position `j` on with the pivot. The items from the start
of the span up to `store` were found not greater than the pivot; those from `store` up to `j`
were not. -/
def scan (order : Comparison α ε) (span : Span n) (pivot : α) :
    (remaining store j : Nat) → span.start ≤ store → store ≤ j → j + remaining < span.stop →
      Vector α n → Tally → Outcome α ε span.Position n
  | 0, store, _, lower, behind, upper, items, tally =>
    .done items tally ⟨store, lower, by omega⟩
  | remaining + 1, store, j, lower, behind, upper, items, tally =>
    have inside := span.inside
    match order.le items[j] pivot with
    | .error error => .failed items tally.compared error
    | .ok true =>
      scan order span pivot remaining (store + 1) (j + 1) (by omega) (by omega) (by omega)
        (items.swap store j) tally.compared.swapped
    | .ok false =>
      scan order span pivot remaining store (j + 1) lower (by omega) (by omega)
        items tally.compared

/-- Partition a span of at least one item around its last item, and answer where that item comes to
stand. The items before it are compared with it from left to right, and nothing else is compared. -/
def run (order : Comparison α ε) (span : Span n) (some : span.start < span.stop)
    (items : Vector α n) (tally : Tally) : Outcome α ε span.Position n :=
  have inside := span.inside
  let last := span.stop - 1
  (scan order span items[last] (last - span.start) span.start span.start (Nat.le_refl _)
      (Nat.le_refl _) (by omega) items tally).andThen fun items tally position =>
    have lower := position.lower
    have upper := position.upper
    .done (items.swap position.index last) tally.swapped.partitioned position

end Partition

end SortBench.Sorting
