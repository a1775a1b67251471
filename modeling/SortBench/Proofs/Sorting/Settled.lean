import SortBench.Proofs.Sorting.Ascending

/-!
# Settled positions of the bubble sort

A position is settled when no item at an earlier one is greater. A pass carries the largest of
the items that it has met, so that it settles one more position from the back; positions that
are settled already it finds in order and leaves alone. As many passes as there are items
therefore settle them all. A pass that exchanges nothing has found every pair in order, and
then all positions are settled too, whatever the number of passes made.
-/

namespace SortBench.Sorting

variable {α ε : Type} {n : Nat} {order : Comparison α ε} {among : α → Prop}

namespace Comparison.Ranks

theorem refl (ranks : order.Ranks among) {a : α} (member : among a) :
    order.le a a = .ok true := by
  obtain ⟨answer, compared⟩ := ranks.answers a a member member
  cases answer with
  | true => exact compared
  | false => exact ranks.total member member compared

/-- The second comparison is answered as well, and tells which way the first one goes. There are two
cases, and in the second the items are in the reverse order. -/
theorem gt_cases (ranks : order.Ranks among) {a b : α} (left : among a) (right : among b) :
    (order.gt a b = .ok false ∧ order.le a b = .ok true) ∨
      (order.gt a b = .ok true ∧ order.le a b = .ok false ∧ order.le b a = .ok true) := by
  obtain ⟨answer, compared⟩ := ranks.answers a b left right
  have opposite := ranks.opposite left right compared
  cases answer with
  | true => exact Or.inl ⟨opposite, compared⟩
  | false => exact Or.inr ⟨opposite, compared, ranks.total left right compared⟩

end Comparison.Ranks

namespace Bubble

/-- The positions from `border` up to `size` are settled: whatever stands before one of them is not
greater than what it holds. -/
def Settled (order : Comparison α ε) (size border : Nat) (items : Vector α n) : Prop :=
  ∀ a b (_ : a < n) (_ : b < n), a < b → b < size → border ≤ b →
    order.le items[a] items[b] = .ok true

/-- A pass that settles position `border`, when it has come to position `i`. The greatest item so
far is at `i`, and everything behind the border is settled already. -/
structure Sweeping (order : Comparison α ε) (size border i : Nat) (items : Vector α n) :
    Prop where
  /-- The item at the position reached is the largest so far. -/
  largest : ∀ k (_ : k < i) (_ : i < n), order.le items[k] items[i] = .ok true
  /-- The positions after the border were settled by earlier passes. -/
  settled : Settled order size (border + 1) items
  /-- Once the border is reached, it is settled. -/
  reached : border ≤ i → ∀ k (_ : k < border) (_ : border < n),
    order.le items[k] items[border] = .ok true

/-- A pair in order is passed by; the later item is the largest now. By transitivity all items
before are not greater than it either. -/
theorem Sweeping.pass {size border i : Nat} {items : Vector α n} (ranks : order.Ranks among)
    (held : Holds among 0 size items) (sweeping : Sweeping order size border i items)
    (inside : i + 1 < n) (upper : i + 1 < size)
    (inOrder : order.le items[i] items[i + 1] = .ok true) :
    Sweeping order size border (i + 1) items := by
  have largest : ∀ k (_ : k < i + 1) (_ : i + 1 < n),
      order.le items[k] items[i + 1] = .ok true := by
    intro k before _
    by_cases last : k = i
    · subst last
      exact inOrder
    · exact ranks.trans (held k (by omega) (Nat.zero_le _) (by omega))
        (held i (by omega) (Nat.zero_le _) (by omega)) (held _ inside (Nat.zero_le _) upper)
        (sweeping.largest k (by omega) (by omega)) inOrder
  refine ⟨largest, sweeping.settled, ?_⟩
  intro reached k before inside
  by_cases now : border = i + 1
  · subst now
    exact largest k before inside
  · exact sweeping.reached (by omega) k before inside

/-- A pair out of order lies before the settled positions; its exchange carries the largest item on.
Settled positions are never exchanged, although every pass compares them again. -/
theorem Sweeping.carry {size border i : Nat} {items : Vector α n} (ranks : order.Ranks among)
    (held : Holds among 0 size items) (sweeping : Sweeping order size border i items)
    (inside : i + 1 < n) (upper : i + 1 < size)
    (outOfOrder : order.le items[i] items[i + 1] = .ok false) :
    Sweeping order size border (i + 1) (items.swap i (i + 1)) := by
  have unsettled : i + 1 ≤ border := by
    apply Nat.le_of_not_lt
    intro settled
    have inOrder := sweeping.settled i (i + 1) (by omega) inside (Nat.lt_succ_self i) upper settled
    rw [outOfOrder] at inOrder
    cases inOrder
  have reverse : order.le items[i + 1] items[i] = .ok true :=
    ranks.total (held i (by omega) (Nat.zero_le _) (by omega))
      (held _ inside (Nat.zero_le _) upper) outOfOrder
  have largest : ∀ k (_ : k < i + 1) (_ : i + 1 < n),
      order.le (items.swap i (i + 1))[k] (items.swap i (i + 1))[i + 1] = .ok true := by
    intro k before _
    rw [Vector.getElem_swap_right]
    by_cases last : k = i
    · subst last
      rw [Vector.getElem_swap_left]
      exact reverse
    · rw [Vector.getElem_swap_of_ne last (by omega)]
      exact sweeping.largest k (by omega) (by omega)
  refine ⟨largest, ?_, ?_⟩
  · intro a b start position before bUpper settled
    rw [Vector.getElem_swap_of_ne (by omega : b ≠ i) (by omega), Vector.getElem_swap]
    split
    · exact sweeping.settled (i + 1) b inside position (by omega) bUpper settled
    · split
      · exact sweeping.settled i b (by omega) position (by omega) bUpper settled
      · exact sweeping.settled a b start position before bUpper settled
  · intro reached k before _
    obtain rfl : border = i + 1 := by omega
    exact largest k before inside

/-- A pass that starts in the middle of its course ends well, with the border settled. In the
middle, because the induction over the pairs needs it. -/
theorem sweep_settles (ranks : order.Ranks among) (border pairs i : Nat)
    (inside : i + pairs < n) (border_le : border ≤ i + pairs) (items : Vector α n) (tally : Tally)
    (exchanged : Bool) (held : Holds among 0 (i + pairs + 1) items)
    (sweeping : Sweeping order (i + pairs + 1) border i items) :
    ∃ after counted flag,
      sweep order pairs i inside items tally exchanged = .done after counted flag ∧
        Settled order (i + pairs + 1) border after := by
  induction pairs generalizing i items tally exchanged with
  | zero =>
    refine ⟨items, tally, exchanged, rfl, ?_⟩
    intro a b start position before upper lower
    by_cases now : b = border
    · subst now
      exact sweeping.reached border_le a before position
    · exact sweeping.settled a b start position before upper (by omega)
  | succ pairs inductionHypothesis =>
    have next : i + 1 + pairs = i + (pairs + 1) := by omega
    rw [← next] at border_le held sweeping
    simp only [← next]
    obtain ⟨answer, inOrder⟩ | ⟨answer, outOfOrder, _⟩ :=
      ranks.gt_cases (held i (by omega) (Nat.zero_le _) (by omega))
        (held (i + 1) (by omega) (Nat.zero_le _) (by omega))
    · rw [sweep_notGreater order inside items tally exchanged answer]
      exact inductionHypothesis _ _ border_le _ _ _ held
        (sweeping.pass ranks held (by omega) (by omega) inOrder)
    · rw [sweep_greater order inside items tally exchanged answer]
      have exchange : Exchanged 0 (i + 1 + pairs + 1) items (items.swap i (i + 1)) :=
        .further (.nothing items) (by omega) (by omega) (by omega) (by omega) (by omega) (by omega)
      exact inductionHypothesis _ _ border_le _ _ _
        (exchange.holds (Nat.le_refl _) (Nat.le_refl _) held)
        (sweeping.carry ranks held (by omega) (by omega) outOfOrder)

/-- A pass that answers that nothing was exchanged has left every pair as it found it, in order. So
the sort may stop there; this holds of any comparisons. -/
theorem sweep_unexchanged (order : Comparison α ε) (pairs i : Nat) (inside : i + pairs < n)
    (items : Vector α n) (tally : Tally) (exchanged : Bool) {after : Vector α n}
    {counted : Tally}
    (ended : sweep order pairs i inside items tally exchanged = .done after counted false) :
    exchanged = false ∧ after = items ∧
      ∀ k (_ : k + 1 < n), i ≤ k → k < i + pairs →
        order.gt items[k] items[k + 1] = .ok false := by
  induction pairs generalizing i items tally exchanged with
  | zero =>
    cases ended
    exact ⟨rfl, rfl, fun _ _ _ _ => by omega⟩
  | succ pairs inductionHypothesis =>
    cases answer : order.gt items[i] items[i + 1] with
    | error error =>
      rw [sweep_refused order inside items tally exchanged answer] at ended
      cases ended
    | ok greater =>
      cases greater with
      | true =>
        rw [sweep_greater order inside items tally exchanged answer] at ended
        cases (inductionHypothesis _ _ _ _ _ ended).1
      | false =>
        rw [sweep_notGreater order inside items tally exchanged answer] at ended
        obtain ⟨unexchanged, same, pairsInOrder⟩ := inductionHypothesis _ _ _ _ _ ended
        refine ⟨unexchanged, same, ?_⟩
        intro k position lower upper
        by_cases first : k = i
        · subst first
          exact answer
        · exact pairsInOrder k position (by omega) (by omega)

/-- Passes end well and leave the range ascending, if at most as many positions as passes are still
to be settled. Each pass settles one position or finds that all are. -/
theorem passes_ascending (ranks : order.Ranks among) (pairs : Nat) (inside : pairs < n)
    (limit : Nat) (limit_le : limit ≤ pairs + 1) (items : Vector α n) (tally : Tally)
    (held : Holds among 0 (pairs + 1) items) (settled : Settled order (pairs + 1) limit items) :
    ∃ after counted,
      passes order pairs inside limit items tally = .done after counted () ∧
        Ascending order 0 (pairs + 1) after := by
  induction limit generalizing items tally with
  | zero =>
    exact ⟨items, tally, rfl, fun a b before position _ upper =>
      settled a b (by omega) position before upper (Nat.zero_le b)⟩
  | succ limit inductionHypothesis =>
    have sweeping : Sweeping order (0 + pairs + 1) limit 0 items := by
      refine ⟨fun _ _ _ => by omega, ?_, fun _ _ _ _ => by omega⟩
      rw [Nat.zero_add]
      exact settled
    obtain ⟨swept, counted, exchanged, sweep, settledNow⟩ :=
      sweep_settles ranks limit pairs 0 (by omega) (by omega) items tally false
        (by rw [Nat.zero_add]; exact held) sweeping
    have kept : Exchanged 0 (0 + pairs + 1) items swept :=
      Outcome.items_of_done sweep (sweep_exchanged ..)
    rw [Nat.zero_add] at settledNow kept
    have heldSwept := kept.holds (Nat.le_refl _) (Nat.le_refl _) held
    rw [passes_succ, sweep, Outcome.andThen_done]
    cases exchanged with
    | true => exact inductionHypothesis (by omega) swept counted.passed heldSwept settledNow
    | false =>
      obtain ⟨_, rfl, pairsInOrder⟩ := sweep_unexchanged order pairs 0 (by omega) _ _ _ sweep
      refine ⟨swept, counted.passed, rfl, .of_adjacent ranks held ?_⟩
      intro k position lower upper
      have inOrder := pairsInOrder k position lower (by omega)
      obtain ⟨_, notGreater⟩ | ⟨greater, _⟩ :=
        ranks.gt_cases (held k (by omega) lower (by omega))
          (held (k + 1) position (Nat.zero_le _) upper)
      · exact notGreater
      · rw [inOrder] at greater
        cases greater

/-- The bubble sort of items that a total preorder compares ends well and leaves its part ascending.
One pass for each item is the limit, and it is enough. -/
theorem sort_ascending (ranks : order.Ranks among) (size : Nat) (inside : size ≤ n)
    (items : Vector α n) (tally : Tally) (held : Holds among 0 size items) :
    ∃ after counted,
      sort order size inside items tally = .done after counted () ∧
        Ascending order 0 size after := by
  unfold sort
  split
  case isTrue several =>
    have pairs : size - 1 + 1 = size := by omega
    have ended := passes_ascending ranks (size - 1) (by omega) size (by omega) items tally
      (by rw [pairs]; exact held) fun _ _ _ _ _ _ => by omega
    rw [pairs] at ended
    exact ended
  case isFalse few => exact ⟨items, tally, rfl, .of_few (by omega)⟩

end Bubble

end SortBench.Sorting
