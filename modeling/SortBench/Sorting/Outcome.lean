import SortBench.Sorting.Tally

/-!
# Outcomes

Sorting in place can fail half way, when a comparison is refused or the nesting of ranges
exceeds its bound. The items as they then are, and the work counted so far, belong to the
outcome as much as the error does. The number of items is part of the type: no step of a
sort can add or lose a position.
-/

namespace SortBench.Sorting

/-- What a step of a sort over `n` items leaves behind. The items and the tally are there however
the step ends, since a sort that fails half-way has already moved and counted. -/
structure Outcome (α ε β : Type) (n : Nat) where
  /-- The items after the step. -/
  items : Vector α n
  /-- The work counted up to the end of the step. -/
  tally : Tally
  /-- The answer of the step, or the error that ended it. -/
  result : Except ε β

namespace Outcome

variable {α ε β γ : Type} {n : Nat}

/-- A step that ended well. -/
def done (items : Vector α n) (tally : Tally) (answer : β) : Outcome α ε β n :=
  { items, tally, result := .ok answer }

/-- A step that an error ended. -/
def failed (items : Vector α n) (tally : Tally) (error : ε) : Outcome α ε β n :=
  { items, tally, result := .error error }

/-- Go on from a step that ended well; after an error nothing more happens, and what was left
stays. -/
@[inline]
def andThen (outcome : Outcome α ε β n)
    (next : Vector α n → Tally → β → Outcome α ε γ n) : Outcome α ε γ n :=
  match outcome with
  | ⟨items, tally, .ok answer⟩ => next items tally answer
  | ⟨items, tally, .error error⟩ => failed items tally error

end Outcome

end SortBench.Sorting
