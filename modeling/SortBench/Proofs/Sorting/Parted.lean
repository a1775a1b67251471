import SortBench.Proofs.Sorting.Exchanges

/-!
# What a partition brings about

The scan keeps two regions: items found not greater than the pivot, then items found not to
be so. Each comparison enlarges one of them by an exchange at their border. At the end the
pivot is exchanged with the first item of the second region, so that the two regions lie on
either side of it.

The regions record the answers that the comparisons gave, true or false, and assume no law of
them; "not found to be not greater" is all that is known of the second region. A scan ends
well if and only if every comparison of an item with the pivot is answered.
-/

namespace SortBench.Sorting

variable {α ε : Type} {n : Nat}

/-- Two regions of items: from `start` up to `middle` the comparison with the pivot answers that the
item is not greater, from `middle` up to `stop` that it is not so. This is the invariant of the
scan, and it is about answers, not about an order. -/
structure Parted (order : Comparison α ε) (pivot : α) (start middle stop : Nat)
    (items : Vector α n) : Prop where
  /-- The items of the first region. -/
  notGreater : Holds (fun item => order.le item pivot = .ok true) start middle items
  /-- The items of the second region. -/
  greater : Holds (fun item => order.le item pivot = .ok false) middle stop items

namespace Parted

variable {order : Comparison α ε} {pivot : α} {start middle stop : Nat} {items : Vector α n}

/-- Two empty regions, with which a scan begins. -/
theorem empty (order : Comparison α ε) (pivot : α) (start : Nat) (items : Vector α n) :
    Parted order pivot start start start items :=
  ⟨fun _ _ _ _ => by omega, fun _ _ _ _ => by omega⟩

/-- An item found greater enlarges the second region where it stands; nothing is moved. -/
theorem extend (parted : Parted order pivot start middle stop items) (inside : stop < n)
    (answer : order.le items[stop] pivot = .ok false) :
    Parted order pivot start middle (stop + 1) items := by
  refine ⟨parted.notGreater, ?_⟩
  intro k position lower upper
  by_cases last : k = stop
  · subst last
    exact answer
  · exact parted.greater k position lower (by omega)

/-- An item found not greater is exchanged with the first item of the second region, which thereby
moves by one position. If that region is empty, the item is exchanged with itself. -/
theorem exchange (parted : Parted order pivot start middle stop items)
    (ordered : middle ≤ stop) (inside : stop < n)
    (answer : order.le items[stop] pivot = .ok true) :
    Parted order pivot start (middle + 1) (stop + 1) (items.swap middle stop) := by
  constructor
  · intro k position lower upper
    by_cases border : k = middle
    · subst border
      rw [Vector.getElem_swap_left]
      exact answer
    · rw [Vector.getElem_swap_of_ne border (by omega)]
      exact parted.notGreater k position lower (by omega)
  · intro k position lower upper
    by_cases last : k = stop
    · subst last
      rw [Vector.getElem_swap_right]
      exact parted.greater middle (by omega) (Nat.le_refl _) (by omega)
    · rw [Vector.getElem_swap_of_ne (by omega) last]
      exact parted.greater k position (by omega) (by omega)

end Parted

namespace Partition

/-- A scan that ends well leaves two regions, the second one beginning at its answer. The
comparisons may contradict each other, as each item is compared once and its answer is remembered by
its place. -/
theorem scan_parted (order : Comparison α ε) (span : Span n) (pivot : α)
    (remaining store j : Nat) (lower : span.start ≤ store) (behind : store ≤ j)
    (upper : j + remaining < span.stop) (items : Vector α n) (tally : Tally)
    (parted : Parted order pivot span.start store j items) {after : Vector α n}
    {counted : Tally} {position : span.Position}
    (ended : scan order span pivot remaining store j lower behind upper items tally =
      .done after counted position) :
    Parted order pivot span.start position.index (j + remaining) after ∧
      position.index ≤ j + remaining := by
  induction remaining generalizing store j items tally with
  | zero =>
    cases ended
    exact ⟨parted, behind⟩
  | succ remaining inductionHypothesis =>
    have inside := span.inside
    have next : j + 1 + remaining = j + (remaining + 1) := by omega
    cases answer : order.le items[j] pivot with
    | error error =>
      rw [scan_refused order span pivot lower behind upper (by omega) items tally answer] at ended
      cases ended
    | ok notGreater =>
      cases notGreater with
      | false =>
        rw [scan_greater order span pivot lower behind upper (by omega) items tally answer]
          at ended
        exact next ▸ inductionHypothesis _ _ _ _ _ _ _ (parted.extend (by omega) answer) ended
      | true =>
        rw [scan_notGreater order span pivot lower behind upper (by omega) items tally answer]
          at ended
        exact next ▸
          inductionHypothesis _ _ _ _ _ _ _ (parted.exchange behind (by omega) answer) ended

/-- The scan ends well if and only if every comparison that it is to make is answered. The items
that it is still to compare are not moved before they are compared, so that which comparisons these
are can be told in advance. -/
theorem scan_done_iff (order : Comparison α ε) (span : Span n) (pivot : α)
    (remaining store j : Nat) (lower : span.start ≤ store) (behind : store ≤ j)
    (upper : j + remaining < span.stop) (items : Vector α n) (tally : Tally) :
    (∃ after counted position,
        scan order span pivot remaining store j lower behind upper items tally =
          .done after counted position) ↔
      ∀ k (_ : k < n), j ≤ k → k < j + remaining →
        ∃ answer, order.le items[k] pivot = .ok answer := by
  induction remaining generalizing store j items tally with
  | zero => exact ⟨fun _ _ _ _ _ => by omega, fun _ => ⟨_, _, _, rfl⟩⟩
  | succ remaining inductionHypothesis =>
    have inside := span.inside
    cases answer : order.le items[j] pivot with
    | error error =>
      rw [scan_refused order span pivot lower behind upper (by omega) items tally answer]
      constructor
      · rintro ⟨after, counted, position, ended⟩
        cases ended
      · intro answered
        obtain ⟨given, same⟩ := answered j (by omega) (Nat.le_refl _) (by omega)
        rw [answer] at same
        cases same
    | ok notGreater =>
      -- Whether the item at `j` is moved or not, the later ones stay where they are.
      have later (moved : Vector α n) (store : Nat) (lower : span.start ≤ store)
          (behind : store ≤ j + 1) (tally : Tally)
          (kept : ∀ k (_ : k < n), j < k → moved[k] = items[k]) :
          (∃ after counted position,
              scan order span pivot remaining store (j + 1) lower behind (by omega) moved tally =
                .done after counted position) ↔
            ∀ k (_ : k < n), j ≤ k → k < j + (remaining + 1) →
              ∃ answer, order.le items[k] pivot = .ok answer := by
        rw [inductionHypothesis]
        constructor
        · intro answered k position kLower kUpper
          by_cases first : k = j
          · subst first
            exact ⟨notGreater, answer⟩
          · rw [← kept k position (by omega)]
            exact answered k position (by omega) (by omega)
        · intro answered k position kLower kUpper
          rw [kept k position (by omega)]
          exact answered k position (by omega) (by omega)
      cases notGreater with
      | false =>
        rw [scan_greater order span pivot lower behind upper (by omega) items tally answer]
        exact later _ _ _ _ _ fun _ _ _ => rfl
      | true =>
        rw [scan_notGreater order span pivot lower behind upper (by omega) items tally answer]
        exact later _ _ _ _ _ fun k position beyond =>
          Vector.getElem_swap_of_ne (by omega) (by omega)

/-- A partition that ended well is a scan that ended well with the last exchange, which puts the
pivot between the two regions. -/
theorem run_done {order : Comparison α ε} {span : Span n} {some : span.start < span.stop}
    {items after : Vector α n} {tally counted : Tally} {position : span.Position}
    (inside : position.index < n) (last : span.stop - 1 < n)
    (ended : run order span some items tally = .done after counted position) :
    ∃ between earlier,
      scan order span items[span.stop - 1] (span.stop - 1 - span.start) span.start span.start
          (Nat.le_refl _) (Nat.le_refl _) (by omega) items tally = .done between earlier position ∧
        after = between.swap position.index (span.stop - 1) := by
  unfold run at ended
  obtain ⟨between, earlier, answer, scanned, _⟩ :=
    Outcome.andThen_result_ok (congrArg Outcome.result ended)
  simp only [scanned, Outcome.andThen_done] at ended
  cases ended
  exact ⟨between, earlier, scanned, rfl⟩

/-- A partition ends well if and only if every item of the span before the last one can be compared
with the last one. Nothing is asked of two items of which neither is the pivot. -/
theorem run_done_iff (order : Comparison α ε) (span : Span n) (some : span.start < span.stop)
    (last : span.stop - 1 < n) (items : Vector α n) (tally : Tally) :
    (∃ after counted position, run order span some items tally = .done after counted position) ↔
      ∀ k (_ : k < n), span.start ≤ k → k < span.stop - 1 →
        ∃ answer, order.le items[k] items[span.stop - 1] = .ok answer := by
  have bound : span.start + (span.stop - 1 - span.start) = span.stop - 1 := by omega
  have scanned := scan_done_iff order span items[span.stop - 1] (span.stop - 1 - span.start)
    span.start span.start (Nat.le_refl _) (Nat.le_refl _) (by omega) items tally
  simp only [bound] at scanned
  rw [← scanned]
  constructor
  · rintro ⟨after, counted, position, ended⟩
    have inside : position.index < n := Nat.lt_of_lt_of_le position.upper span.inside
    obtain ⟨between, earlier, first, _⟩ := run_done inside last ended
    exact ⟨between, earlier, position, first⟩
  · rintro ⟨between, counted, position, ended⟩
    simp only [run, ended, Outcome.andThen_done]
    exact ⟨_, _, _, rfl⟩

/-- After a partition that ended well the pivot stands at its answer, every item of the span before
it was found not greater than it, and every item after it was found not to be so. Whether the sides
are in order to each other depends on the comparisons, and is not said here. -/
theorem run_parted {order : Comparison α ε} {span : Span n} {some : span.start < span.stop}
    {items after : Vector α n} {tally counted : Tally} {position : span.Position}
    (inside : position.index < n) (last : span.stop - 1 < n)
    (ended : run order span some items tally = .done after counted position) :
    after[position.index] = items[span.stop - 1] ∧
      Holds (fun item => order.le item items[span.stop - 1] = .ok true) span.start
        position.index after ∧
      Holds (fun item => order.le item items[span.stop - 1] = .ok false) (position.index + 1)
        span.stop after := by
  have bound : span.start + (span.stop - 1 - span.start) = span.stop - 1 := by omega
  obtain ⟨between, earlier, scanned, rfl⟩ := run_done inside last ended
  obtain ⟨parted, upper⟩ :=
    scan_parted _ _ _ _ _ _ _ _ _ _ _ (.empty order _ span.start items) scanned
  have kept := scan_exchanged order span items[span.stop - 1] (span.stop - 1 - span.start)
    span.start span.start (Nat.le_refl _) (Nat.le_refl _) (by omega) items tally
  rw [scanned] at kept
  have pivot : between[span.stop - 1] = items[span.stop - 1] :=
    kept.outside last (Or.inr (Nat.le_of_eq bound))
  refine ⟨?_, ?_, ?_⟩
  · rw [Vector.getElem_swap_left, pivot]
  · intro k position lower upper
    rw [Vector.getElem_swap_of_ne (by omega) (by omega)]
    exact parted.notGreater k position lower upper
  · intro k position lower upper
    by_cases final : k = span.stop - 1
    · subst final
      rw [Vector.getElem_swap_right]
      exact parted.greater _ inside (Nat.le_refl _) (by omega)
    · rw [Vector.getElem_swap_of_ne (by omega) final]
      exact parted.greater k position (by omega) (by omega)

end Partition

end SortBench.Sorting
