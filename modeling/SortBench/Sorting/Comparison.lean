/-!
# Comparisons that may be refused

The sorts know their items only through two comparisons, either of which may refuse a pair
with an error of its own. No law is assumed of them: what holds for every comparison is
stated so, and laws of an order are hypotheses where they are needed.
-/

namespace SortBench.Sorting

/-- The two comparisons that the sorts make of items. They are asked separately, one by the bubble
sort and one by the partitions, and no law relates their answers; each may also refuse a pair. -/
structure Comparison (α ε : Type) where
  /-- Whether the first item is not greater than the second. -/
  le : α → α → Except ε Bool
  /-- Whether the first item is greater than the second. -/
  gt : α → α → Except ε Bool

/-- The same comparisons with their refusals put in other terms. -/
def Comparison.mapError {α ε δ : Type} (order : Comparison α ε) (restate : ε → δ) :
    Comparison α δ :=
  { le := fun left right => (order.le left right).mapError restate
    gt := fun left right => (order.gt left right).mapError restate }

end SortBench.Sorting
