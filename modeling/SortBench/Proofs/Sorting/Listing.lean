/-!
# Items in a row

The sorts address items by position; what they do is easier to say of the row of all items, cut
where the positions of an exchange are. An exchange of two positions lets the items there change
places in the row. Seen from an item that is brought forward past others, the row afterwards has
that item first and then the others, of which only the first has changed its place.
-/

namespace SortBench.Sorting

variable {α : Type} {n i j : Nat} {items : Vector α n} {before middle after : List α} {a b : α}

theorem getElem_of_toList (shape : items.toList = before ++ a :: after)
    (position : i = before.length) (inside : i < n) : items[i] = a := by
  subst position
  rw [← Vector.getElem_toList (by simpa using inside)]
  simp [shape]

/-- Two items that are exchanged change places in the row of all items. The row is cut at both of
them, so that nothing has to be said of positions. -/
theorem toList_swap_apart (shape : items.toList = before ++ a :: (middle ++ b :: after))
    (left : i = before.length) (right : j = before.length + middle.length + 1) (first : i < n)
    (second : j < n) :
    (items.swap i j first second).toList = before ++ b :: (middle ++ a :: after) := by
  have later : items.toList = (before ++ a :: middle) ++ b :: after := by simp [shape]
  rw [Vector.toList_swap, getElem_of_toList shape left first,
    getElem_of_toList later (by simp [right, Nat.add_assoc]) second, shape, left, right]
  simp [Nat.add_assoc]

/-- Two neighbours that are exchanged change places in the row. It is the case with nothing between
them, and the only one that a pass over adjacent pairs needs. -/
theorem toList_swap_next (shape : items.toList = before ++ a :: b :: after)
    (position : i = before.length) (first : i < n) (second : i + 1 < n) :
    (items.swap i (i + 1) first second).toList = before ++ b :: a :: after := by
  have apart : items.toList = before ++ a :: ([] ++ b :: after) := shape
  exact toList_swap_apart apart position (by simp [position]) first second

theorem swap_same (first second : i < n) : items.swap i i first second = items := by
  ext k inside
  rw [Vector.getElem_swap]
  split <;> simp_all

/-- An item that is exchanged with the first of some items before it comes forward past them; they
follow it, in some order. Which order that is does not matter to a partition, and it is left
open. -/
theorem toList_swap_forward (shape : items.toList = before ++ (middle ++ a :: after))
    (left : i = before.length) (right : j = before.length + middle.length) (first : i < n)
    (second : j < n) :
    ∃ passed, passed.Perm middle ∧
      (items.swap i j first second).toList = before ++ a :: (passed ++ after) := by
  cases middle with
  | nil =>
    obtain rfl : j = i := by simp [left, right]
    exact ⟨[], .nil, by rw [swap_same]; exact shape⟩
  | cons head rest =>
    refine ⟨rest ++ [head], List.perm_append_singleton head rest, ?_⟩
    rw [toList_swap_apart shape left (by simpa [Nat.add_assoc] using right)]
    simp

end SortBench.Sorting
