import SortBench.Sorting.Partition

/-!
# Quicksort over a stack of pending spans

The same partitions as the recursive sort, in the same order, without nested calls: spans
that are still to be sorted wait on a stack, each with its level. The top span is taken off;
if it has at least two items it is partitioned, and its two parts are put back, the part
before the pivot on top. A span of `m` items weighs `2 * m + 1`, and each turn makes the
stack lighter, so the loop ends after finitely many turns whatever the comparisons answer.
-/

namespace SortBench.Sorting

/-- A span that is still to be sorted, with its level. -/
structure Pending (n : Nat) where
  /-- The span. -/
  span : Span n
  /-- Its level; the whole range is level one. -/
  depth : Nat

namespace Pending

variable {α ε : Type} {n : Nat}

/-- The weight of a stack: an upper bound on the turns that it still takes. It is what makes the
loop over a stack end, without any bound given from outside. -/
def weight : List (Pending n) → Nat
  | [] => 0
  | pending :: rest => 2 * pending.span.size + 1 + weight rest

/-- The stack after a span was partitioned: the part before the pivot on top, then the part
after it, both one level deeper, then the rest. -/
def split (top : Pending n) (pivot : top.span.Position) (rest : List (Pending n)) :
    List (Pending n) :=
  ⟨top.span.before pivot, top.depth + 1⟩ :: ⟨top.span.after pivot, top.depth + 1⟩ :: rest

/-- Splitting a span makes the stack lighter. -/
theorem weight_split_lt (top : Pending n) (pivot : top.span.Position)
    (rest : List (Pending n)) : weight (top.split pivot rest) < weight (top :: rest) := by
  have lower := pivot.lower
  have upper := pivot.upper
  simp only [weight, split, Span.size, Span.before, Span.after]
  omega

/-- Taking a span off makes the stack lighter. -/
theorem weight_rest_lt (top : Pending n) (rest : List (Pending n)) :
    weight rest < weight (top :: rest) := by
  simp only [weight]
  omega

/-- One turn: sort nothing in a span of fewer than two items, partition any other, and
answer with the stack to go on with. -/
def turn (order : Comparison α ε) (top : Pending n) (rest : List (Pending n))
    (items : Vector α n) (tally : Tally) :
    Outcome α ε { stack : List (Pending n) // weight stack < weight (top :: rest) } n :=
  if several : 2 ≤ top.span.size then
    have some : top.span.start < top.span.stop := by
      unfold Span.size at several
      omega
    (Partition.run order top.span some items (tally.reached top.depth)).andThen
      fun items tally pivot =>
        .done items tally ⟨top.split pivot rest, weight_split_lt top pivot rest⟩
  else
    .done items tally ⟨rest, weight_rest_lt top rest⟩

/-- Take turns until no span is pending. The stack may be as deep as it needs to be. -/
def drain (order : Comparison α ε) (stack : List (Pending n)) (items : Vector α n)
    (tally : Tally) : Outcome α ε Unit n :=
  match stack with
  | [] => .done items tally ()
  | top :: rest =>
    match turn order top rest items tally with
    | ⟨items, tally, .ok next⟩ => drain order next.val items tally
    | ⟨items, tally, .error error⟩ => .failed items tally error
termination_by weight stack
decreasing_by exact next.property

/-- Sort a span: begin with it alone on the stack, at level one. -/
def sort (order : Comparison α ε) (span : Span n) (items : Vector α n) (tally : Tally) :
    Outcome α ε Unit n :=
  drain order [⟨span, 1⟩] items tally

end Pending

end SortBench.Sorting
