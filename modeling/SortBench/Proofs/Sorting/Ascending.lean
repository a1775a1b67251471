import SortBench.Proofs.Sorting.CallTree
import SortBench.Proofs.Sorting.Parted

/-!
# Ascending ranges

Two assumptions on comparisons, each about the items of a class only. Where every comparison
is answered, a sort ends well. Where the answers are those of a total preorder, it leaves an
ascending range. The class is that of the items which the range holds; since items are only
exchanged, it holds the same ones after every step.

This module has the assumptions and the quicksorts. Items that the preorder does not tell apart
may end in any order among themselves.
-/

namespace SortBench.Sorting

variable {α ε : Type} {n : Nat}

/-- Every two items of the class can be compared. -/
def Comparison.Answers (order : Comparison α ε) (among : α → Prop) : Prop :=
  ∀ a b, among a → among b → ∃ answer, order.le a b = .ok answer

/-- On the items of the class the first comparison is a total preorder, and the second one always
gives the opposite answer. Nothing is said of items outside the class, which may be refused or
answered at random; and items may tie without being the same. -/
structure Comparison.Ranks (order : Comparison α ε) (among : α → Prop) : Prop where
  /-- Every two items can be compared. -/
  answers : order.Answers among
  /-- Of two items one is not greater than the other. -/
  total : ∀ {a b}, among a → among b → order.le a b = .ok false → order.le b a = .ok true
  /-- Not to be greater is transitive. -/
  trans : ∀ {a b c}, among a → among b → among c → order.le a b = .ok true →
    order.le b c = .ok true → order.le a c = .ok true
  /-- An item is greater exactly when it is not the case that it is not greater. -/
  opposite : ∀ {a b answer}, among a → among b → order.le a b = .ok answer →
    order.gt a b = .ok !answer

theorem mapError_ok {β δ : Type} (restate : ε → δ) (answer : β) :
    (Except.ok answer).mapError restate = .ok answer :=
  rfl

/-- Refusals in other terms leave the answers as they are. So what is proved of the comparisons of
values carries over to those of the bench, which put a refusal as a fault. -/
theorem mapError_eq_ok {β δ : Type} {outcome : Except ε β} {restate : ε → δ} {answer : β} :
    outcome.mapError restate = .ok answer ↔ outcome = .ok answer := by
  cases outcome with
  | ok found => rw [mapError_ok, Except.ok.injEq, Except.ok.injEq]
  | error error => exact iff_of_false nofun nofun

theorem Comparison.Answers.mapError {δ : Type} {order : Comparison α ε} {among : α → Prop}
    (answers : order.Answers among) (restate : ε → δ) :
    (order.mapError restate).Answers among := by
  intro a b left right
  obtain ⟨answer, compared⟩ := answers a b left right
  exact ⟨answer, mapError_eq_ok.mpr compared⟩

/-- A total preorder is one with its refusals put in other terms, as none is ever met. -/
theorem Comparison.Ranks.mapError {δ : Type} {order : Comparison α ε} {among : α → Prop}
    (ranks : order.Ranks among) (restate : ε → δ) : (order.mapError restate).Ranks among where
  answers := ranks.answers.mapError restate
  total left right greater :=
    mapError_eq_ok.mpr (ranks.total left right (mapError_eq_ok.mp greater))
  trans left middle right first second :=
    mapError_eq_ok.mpr
      (ranks.trans left middle right (mapError_eq_ok.mp first) (mapError_eq_ok.mp second))
  opposite left right compared :=
    mapError_eq_ok.mpr (ranks.opposite left right (mapError_eq_ok.mp compared))

/-- In a range no item is greater than one at a later position. -/
def Ascending (order : Comparison α ε) (start stop : Nat) (items : Vector α n) : Prop :=
  ∀ i j (_ : i < j) (_ : j < n), start ≤ i → j < stop → order.le items[i] items[j] = .ok true

namespace Ascending

variable {order : Comparison α ε} {among : α → Prop} {start middle stop : Nat}
  {items : Vector α n}

/-- A range of fewer than two positions is ascending. It has no two positions that could be out of
order; this is where the inductions over ranges begin. -/
theorem of_few (few : stop ≤ start + 1) : Ascending order start stop items :=
  fun _ _ _ _ _ _ => by omega

/-- Positions outside a range do not count for it. A sort of one side of a pivot leaves the other
side ascending if it was. -/
theorem congr {other : Vector α n} (ascending : Ascending order start stop items)
    (same : ∀ k (_ : k < n), start ≤ k → k < stop → other[k] = items[k]) :
    Ascending order start stop other := by
  intro i j before inside lower upper
  rw [same i (by omega) lower (by omega), same j inside (by omega) upper]
  exact ascending i j before inside lower upper

/-- An ascending range, an item that is not less than any of them, and an ascending range of items
that are not less than it, are an ascending range. Items on different sides are compared through the
item in the middle, by transitivity. -/
theorem join (ranks : order.Ranks among) (held : Holds among start stop items)
    (inside : middle < n) (lower : start ≤ middle) (upper : middle < stop)
    (left : Ascending order start middle items) (right : Ascending order (middle + 1) stop items)
    (below : ∀ k (_ : k < n), start ≤ k → k < middle → order.le items[k] items[middle] = .ok true)
    (above : ∀ k (_ : k < n), middle < k → k < stop → order.le items[middle] items[k] = .ok true) :
    Ascending order start stop items := by
  intro i j before position iLower jUpper
  rcases Nat.lt_trichotomy j middle with jBefore | jMiddle | jAfter
  · exact left i j before position iLower jBefore
  · subst jMiddle
    exact below i (by omega) iLower before
  · rcases Nat.lt_trichotomy i middle with iBefore | iMiddle | iAfter
    · exact ranks.trans (held i (by omega) iLower (by omega)) (held middle inside lower upper)
        (held j position (by omega) jUpper) (below i (by omega) iLower iBefore)
        (above j position jAfter jUpper)
    · subst iMiddle
      exact above j position jAfter jUpper
    · exact right i j before position iAfter jUpper

/-- A range is ascending if no item is greater than the next one. This needs transitivity between
any two items of the range, and so would fail if one of them had no order to the others. -/
theorem of_adjacent (ranks : order.Ranks among) (held : Holds among start stop items)
    (adjacent : ∀ k (_ : k + 1 < n), start ≤ k → k + 1 < stop →
      order.le items[k] items[k + 1] = .ok true) : Ascending order start stop items := by
  intro i j before inside lower upper
  induction j with
  | zero => omega
  | succ j inductionHypothesis =>
    have last := adjacent j inside (by omega) upper
    by_cases next : i = j
    · subst next
      exact last
    · exact ranks.trans (held i (by omega) lower (by omega)) (held j (by omega) (by omega)
        (by omega)) (held (j + 1) inside (by omega) upper)
        (inductionHypothesis (by omega) (by omega) (by omega)) last

end Ascending

theorem Span.last_lt (span : Span n) (several : 2 ≤ span.size) : span.stop - 1 < n := by
  have inside := span.inside
  have some := span.start_lt_stop several
  omega

namespace Quick

/-- With room for its size, the sort of a span whose items can be compared ends well. Each level
takes at least the pivot out, so that room for the size is room enough.

Proof: by induction on the room; the sides of a pivot are smaller than the span, and hold items of
the same class. -/
theorem sort_completes {order : Comparison α ε} {exhausted : ε} {among : α → Prop}
    (answers : order.Answers among) (room depth : Nat) (span : Span n)
    (enough : span.size ≤ room) (items : Vector α n) (tally : Tally)
    (held : Holds among span.start span.stop items) :
    ∃ after counted,
      sort order exhausted room depth span items tally = .done after counted () := by
  induction room generalizing depth span items tally with
  | zero =>
    rw [sort_trivial _ _ _ _ _ _ _ (by omega)]
    exact ⟨items, tally, rfl⟩
  | succ room inductionHypothesis =>
    by_cases several : 2 ≤ span.size
    · have some := span.start_lt_stop several
      have last := span.last_lt several
      rw [sort_several _ _ _ _ _ _ _ several]
      obtain ⟨parted, counted, pivot, partition⟩ :=
        (Partition.run_done_iff order span some last items (tally.reached depth)).mpr
          fun k inside lower upper =>
            answers _ _ (held k inside lower (by omega)) (held _ last (by omega) (by omega))
      have before := span.size_before_lt pivot
      have after := span.size_after_lt pivot
      have lower := pivot.lower
      have upper := pivot.upper
      have keptParted : Exchanged span.start span.stop items parted :=
        Outcome.items_of_done partition (Partition.run_exchanged ..)
      have heldParted := keptParted.holds (Nat.le_refl _) (Nat.le_refl _) held
      obtain ⟨half, counted, left⟩ := inductionHypothesis (depth + 1) (span.before pivot)
        (by omega) parted counted (heldParted.narrow (Nat.le_refl _) (Nat.le_of_lt upper))
      have keptHalf : Exchanged span.start pivot.index parted half :=
        Outcome.items_of_done left (sort_exchanged _ _ _ _ (span.before pivot) ..)
      have heldHalf := keptHalf.holds (Nat.le_refl _) (Nat.le_of_lt upper) heldParted
      rw [partition, Outcome.andThen_done, left, Outcome.andThen_done]
      exact inductionHypothesis (depth + 1) (span.after pivot) (by omega) half counted
        (heldHalf.narrow (Nat.le_succ_of_le lower) (Nat.le_refl _))
    · rw [sort_trivial _ _ _ _ _ _ _ several]
      exact ⟨items, tally, rfl⟩

/-- A sort of two items or more that ended well is a partition and two sorts that did. The
intermediate arrays and tallies are named, so that what is known of each part can be put
together. -/
theorem sort_done_several {order : Comparison α ε} {exhausted : ε} {room depth : Nat}
    {span : Span n} {items after : Vector α n} {tally counted : Tally}
    (several : 2 ≤ span.size)
    (ended : sort order exhausted (room + 1) depth span items tally = .done after counted ()) :
    ∃ parted half firstTally secondTally pivot,
      Partition.run order span (span.start_lt_stop several) items (tally.reached depth) =
        .done parted firstTally pivot ∧
      sort order exhausted room (depth + 1) (span.before pivot) parted firstTally =
        .done half secondTally () ∧
      sort order exhausted room (depth + 1) (span.after pivot) half secondTally =
        .done after counted () := by
  rw [sort_several _ _ _ _ _ _ _ several] at ended
  obtain ⟨parted, firstTally, pivot, partition, _⟩ :=
    Outcome.andThen_result_ok (congrArg Outcome.result ended)
  rw [partition, Outcome.andThen_done] at ended
  obtain ⟨half, secondTally, _, left, _⟩ :=
    Outcome.andThen_result_ok (congrArg Outcome.result ended)
  rw [left, Outcome.andThen_done] at ended
  exact ⟨parted, half, firstTally, secondTally, pivot, partition, left, ended⟩

section

variable {order : Comparison α ε} {exhausted : ε} {among : α → Prop} {room depth : Nat}
  {span : Span n} {items parted half after : Vector α n}
  {tally firstTally secondTally counted : Tally} {pivot : span.Position}

/-- What a partition and the sorts of both sides exchange: positions of the span, of the side before
the pivot, and of the side after it. The items of a class are of the class after each of the three
steps, so that they can still be compared. -/
theorem exchanged_of_sorted (several : 2 ≤ span.size)
    (held : Holds among span.start span.stop items)
    (partition : Partition.run order span (span.start_lt_stop several) items tally =
      .done parted firstTally pivot)
    (left : sort order exhausted room depth (span.before pivot) parted firstTally =
      .done half secondTally ())
    (right : sort order exhausted room depth (span.after pivot) half secondTally =
      .done after counted ()) :
    (Exchanged span.start pivot.index parted half ∧
        Exchanged (pivot.index + 1) span.stop half after) ∧
      Holds among span.start span.stop parted ∧ Holds among span.start span.stop half ∧
        Holds among span.start span.stop after := by
  have lower := pivot.lower
  have upper := pivot.upper
  have keptParted : Exchanged span.start span.stop items parted :=
    Outcome.items_of_done partition (Partition.run_exchanged ..)
  have keptHalf : Exchanged span.start pivot.index parted half :=
    Outcome.items_of_done left (sort_exchanged _ _ _ _ (span.before pivot) ..)
  have kept : Exchanged (pivot.index + 1) span.stop half after :=
    Outcome.items_of_done right (sort_exchanged _ _ _ _ (span.after pivot) ..)
  have heldParted := keptParted.holds (Nat.le_refl _) (Nat.le_refl _) held
  have heldHalf := keptHalf.holds (Nat.le_refl _) (Nat.le_of_lt upper) heldParted
  have heldAfter := kept.holds (Nat.le_succ_of_le lower) (Nat.le_refl _) heldHalf
  exact ⟨⟨keptHalf, kept⟩, heldParted, heldHalf, heldAfter⟩

/-- After a partition and the sorts of both sides the pivot still stands between items that are not
greater than it and items that are not less. What the partition found stays true while the sides are
sorted, since their items are only exchanged among themselves. -/
theorem sides_of_sorted (ranks : order.Ranks among) (several : 2 ≤ span.size)
    (held : Holds among span.start span.stop items)
    (partition : Partition.run order span (span.start_lt_stop several) items tally =
      .done parted firstTally pivot)
    (left : sort order exhausted room depth (span.before pivot) parted firstTally =
      .done half secondTally ())
    (right : sort order exhausted room depth (span.after pivot) half secondTally =
      .done after counted ()) (inside : pivot.index < n) :
    (∀ k (_ : k < n), span.start ≤ k → k < pivot.index →
        order.le after[k] after[pivot.index] = .ok true) ∧
      ∀ k (_ : k < n), pivot.index < k → k < span.stop →
        order.le after[pivot.index] after[k] = .ok true := by
  have some := span.start_lt_stop several
  have last := span.last_lt several
  have lower := pivot.lower
  obtain ⟨⟨keptHalf, kept⟩, heldParted, _, _⟩ :=
    exchanged_of_sorted several held partition left right
  obtain ⟨pivotParted, notGreater, greater⟩ := Partition.run_parted inside last partition
  have pivotKept : after[pivot.index] = items[span.stop - 1] := by
    rw [kept.outside inside (Or.inl (Nat.lt_succ_self _)),
      keptHalf.outside inside (Or.inr (Nat.le_refl _)), pivotParted]
  have pivotAmong : among items[span.stop - 1] := held _ last (by omega) (by omega)
  have above : Holds (fun item => order.le items[span.stop - 1] item = .ok true)
      (pivot.index + 1) span.stop half := by
    intro k position kLower kUpper
    rw [keptHalf.outside position (Or.inr (by omega))]
    exact ranks.total (heldParted k position (by omega) kUpper) pivotAmong
      (greater k position kLower kUpper)
  constructor
  · intro k position kLower kUpper
    rw [pivotKept, kept.outside position (Or.inl (by omega))]
    exact keptHalf.holds (Nat.le_refl _) (Nat.le_refl _) notGreater k position kLower kUpper
  · intro k position kLower kUpper
    rw [pivotKept]
    exact kept.holds (Nat.le_refl _) (Nat.le_refl _) above k position kLower kUpper

end

/-- A sort that ended well, whatever its room, leaves its span ascending. Whether it ends well is a
question of its own (`sort_completes`); nothing is claimed here of a sort that gave up.

Proof: by induction on the room. By the induction both sides ascend, the pivot divides them, and the
three parts are joined. -/
theorem sort_ascending {order : Comparison α ε} {exhausted : ε} {among : α → Prop}
    (ranks : order.Ranks among) (room depth : Nat) (span : Span n) (items : Vector α n)
    (tally : Tally) (held : Holds among span.start span.stop items) {after : Vector α n}
    {counted : Tally}
    (ended : sort order exhausted room depth span items tally = .done after counted ()) :
    Ascending order span.start span.stop after := by
  induction room generalizing depth span items tally after counted with
  | zero =>
    by_cases several : 2 ≤ span.size
    · rw [sort_without_room _ _ _ _ _ _ several] at ended
      cases ended
    · unfold Span.size at several
      exact .of_few (by omega)
  | succ room inductionHypothesis =>
    by_cases several : 2 ≤ span.size
    · obtain ⟨parted, half, firstTally, secondTally, pivot, partition, left, right⟩ :=
        sort_done_several several ended
      have lower := pivot.lower
      have upper := pivot.upper
      have inside : pivot.index < n := Nat.lt_of_lt_of_le upper span.inside
      obtain ⟨⟨_, kept⟩, heldParted, heldHalf, heldAfter⟩ :=
        exchanged_of_sorted several held partition left right
      have leftAscending : Ascending order span.start pivot.index after := by
        refine (inductionHypothesis (depth + 1) (span.before pivot) parted firstTally
          (heldParted.narrow (Nat.le_refl _) (Nat.le_of_lt upper)) left).congr ?_
        intro k position kLower kUpper
        exact kept.outside position (Or.inl (Nat.lt_succ_of_lt kUpper))
      have rightAscending : Ascending order (pivot.index + 1) span.stop after :=
        inductionHypothesis (depth + 1) (span.after pivot) half secondTally
          (heldHalf.narrow (Nat.le_succ_of_le lower) (Nat.le_refl _)) right
      obtain ⟨below, above⟩ :=
        sides_of_sorted ranks several held partition left right inside
      exact .join ranks heldAfter inside lower upper leftAscending rightAscending below above
    · unfold Span.size at several
      exact .of_few (by omega)

end Quick

end SortBench.Sorting
