import SortBench.Sorting.Comparison
import SortBench.Sorting.Outcome

/-!
# Bubble sort

A pass goes from left to right over the adjacent pairs and exchanges a pair only when its
first item is greater, so equal items keep their order. Sorting makes passes until one of
them exchanges nothing. At most as many passes as there are items are made; under any order
of the items that many suffice, since each pass but the last brings at least one more item
to its place.
-/

namespace SortBench.Sorting.Bubble

variable {α ε : Type} {n : Nat}

/-- Go over the pairs `(i, i + 1)`, `(i + 1, i + 2)`, … for the given number of pairs, and
answer whether any pair was exchanged, now or before. -/
def sweep (order : Comparison α ε) :
    (pairs i : Nat) → i + pairs < n → Vector α n → Tally → Bool → Outcome α ε Bool n
  | 0, _, _, items, tally, exchanged => .done items tally exchanged
  | pairs + 1, i, inside, items, tally, exchanged =>
    match order.gt (items[i]) (items[i + 1]) with
    | .error error => .failed items tally.compared error
    | .ok false => sweep order pairs (i + 1) (by omega) items tally.compared exchanged
    | .ok true =>
      sweep order pairs (i + 1) (by omega) (items.swap i (i + 1)) tally.compared.swapped true

/-- Make passes over the first `pairs + 1` items until one exchanges nothing, but at most
`limit` of them. -/
def passes (order : Comparison α ε) (pairs : Nat) (inside : pairs < n) :
    (limit : Nat) → Vector α n → Tally → Outcome α ε Unit n
  | 0, items, tally => .done items tally ()
  | limit + 1, items, tally =>
    (sweep order pairs 0 (by omega) items tally false).andThen fun items tally exchanged =>
      if exchanged then passes order pairs inside limit items tally.passed
      else .done items tally.passed ()

/-- Sort the first `size` items. Fewer than two items need no pass, and none is counted for them. -/
def sort (order : Comparison α ε) (size : Nat) (inside : size ≤ n) (items : Vector α n)
    (tally : Tally) : Outcome α ε Unit n :=
  if several : 2 ≤ size then passes order (size - 1) (by omega) size items tally
  else .done items tally ()

end SortBench.Sorting.Bubble
