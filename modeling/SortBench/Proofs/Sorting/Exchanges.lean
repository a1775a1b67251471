import SortBench.Proofs.Sorting.Steps

/-!
# Changes by exchanges alone

A sort changes its items in one way only: it exchanges two positions of the range that it was
given. Whatever the comparisons answer, and wherever a refused comparison or exhausted room
ends the sort, the items then differ from the first ones by exchanges within that range. Hence
they are the same items, each once, and every position outside the range holds what it held.

The relation below is the invariant of every loop and of the recursion. It asks nothing of
the comparisons and says nothing about order.
-/

namespace SortBench.Sorting

variable {α ε : Type} {n : Nat}

/-- One arrangement of items comes from another by exchanges of positions from `start` up to, but
not including, `stop`. An algorithm that only exchanges can neither lose an item nor make one. -/
inductive Exchanged (start stop : Nat) : Vector α n → Vector α n → Prop where
  /-- No exchange at all. -/
  | nothing (items : Vector α n) : Exchanged start stop items items
  /-- One exchange more. -/
  | further {before after : Vector α n} (earlier : Exchanged start stop before after)
      {i j : Nat} (first : i < n) (second : j < n) (firstLower : start ≤ i)
      (firstUpper : i < stop) (secondLower : start ≤ j) (secondUpper : j < stop) :
      Exchanged start stop before (after.swap i j first second)

/-- The items at the positions of a range are of a class. -/
def Holds (among : α → Prop) (start stop : Nat) (items : Vector α n) : Prop :=
  ∀ k (_ : k < n), start ≤ k → k < stop → among items[k]

/-- A part of a range holds items of a class if the range does. Every side of a pivot is such a
part. -/
theorem Holds.narrow {among : α → Prop} {lower upper start stop : Nat} {items : Vector α n}
    (held : Holds among lower upper items) (lowerEnd : lower ≤ start) (upperEnd : stop ≤ upper) :
    Holds among start stop items :=
  fun k inside kLower kUpper => held k inside (by omega) (by omega)

namespace Exchanged

variable {start stop : Nat} {before between after : Vector α n}

theorem trans (first : Exchanged start stop before between)
    (second : Exchanged start stop between after) : Exchanged start stop before after := by
  induction second with
  | nothing => exact first
  | further _ iInside jInside iLower iUpper jLower jUpper inductionHypothesis =>
    exact .further inductionHypothesis iInside jInside iLower iUpper jLower jUpper

/-- Exchanges within a range are exchanges within every wider one. What the parts of a sort exchange
is thus put in terms of its whole range. -/
theorem widen {lower upper : Nat} (exchanged : Exchanged start stop before after)
    (lowerEnd : lower ≤ start) (upperEnd : stop ≤ upper) :
    Exchanged lower upper before after := by
  induction exchanged with
  | nothing => exact .nothing _
  | further _ iInside jInside iLower iUpper jLower jUpper inductionHypothesis =>
    exact .further inductionHypothesis iInside jInside (by omega) (by omega) (by omega) (by omega)

/-- Exchanges neither add nor lose an item, nor change one. Nothing is assumed of the comparisons
that led to them, so this is true of every sort, also of one that was refused half-way. -/
theorem perm (exchanged : Exchanged start stop before after) : after.Perm before := by
  induction exchanged with
  | nothing => exact .rfl
  | further _ iInside jInside _ _ _ _ inductionHypothesis =>
    exact (Vector.swap_perm iInside jInside).trans inductionHypothesis

/-- A position outside the range holds what it held. A sort of a range can be trusted with the rest
of the array. -/
theorem outside (exchanged : Exchanged start stop before after) {k : Nat} (position : k < n)
    (beyond : k < start ∨ stop ≤ k) : after[k] = before[k] := by
  induction exchanged with
  | nothing => rfl
  | further _ iInside jInside iLower iUpper jLower jUpper inductionHypothesis =>
    rw [Vector.getElem_swap_of_ne (by omega) (by omega)]
    exact inductionHypothesis

/-- Exchanges within a range keep what holds of all its items. The range of the exchanges may be a
part of it. -/
theorem holds {among : α → Prop} {lower upper : Nat}
    (exchanged : Exchanged start stop before after) (lowerEnd : lower ≤ start)
    (upperEnd : stop ≤ upper) (held : Holds among lower upper before) :
    Holds among lower upper after := by
  induction exchanged with
  | nothing => exact held
  | further _ iInside jInside iLower iUpper jLower jUpper inductionHypothesis =>
    intro k position kLower kUpper
    rw [Vector.getElem_swap]
    split
    · exact inductionHypothesis _ jInside (by omega) (by omega)
    · split
      · exact inductionHypothesis _ iInside (by omega) (by omega)
      · exact inductionHypothesis k position kLower kUpper

end Exchanged

namespace Partition

/-- The scan exchanges positions from the start of the span up to the last one that it compares. The
pivot, which stands behind, is not moved by it. -/
theorem scan_exchanged (order : Comparison α ε) (span : Span n) (pivot : α)
    (remaining store j : Nat) (lower : span.start ≤ store) (behind : store ≤ j)
    (upper : j + remaining < span.stop) (items : Vector α n) (tally : Tally) :
    Exchanged span.start (j + remaining) items
      (scan order span pivot remaining store j lower behind upper items tally).items := by
  induction remaining generalizing store j items tally with
  | zero => exact .nothing items
  | succ remaining inductionHypothesis =>
    have inside := span.inside
    have later (store : Nat) (lower : span.start ≤ store) (behind : store ≤ j + 1)
        (items : Vector α n) (tally : Tally) :
        Exchanged span.start (j + (remaining + 1)) items
          (scan order span pivot remaining store (j + 1) lower behind (by omega) items
            tally).items :=
      (inductionHypothesis store (j + 1) lower behind (by omega) items tally).widen
        (Nat.le_refl _) (by omega)
    cases answer : order.le items[j] pivot with
    | error error =>
      rw [scan_refused order span pivot lower behind upper (by omega) items tally answer]
      exact .nothing items
    | ok notGreater =>
      cases notGreater with
      | false =>
        rw [scan_greater order span pivot lower behind upper (by omega) items tally answer]
        exact later ..
      | true =>
        rw [scan_notGreater order span pivot lower behind upper (by omega) items tally answer]
        have exchange : Exchanged span.start (j + (remaining + 1)) items (items.swap store j) :=
          .further (.nothing items) (by omega) (by omega) lower (by omega) (by omega) (by omega)
        exact exchange.trans (later ..)

/-- A partition exchanges positions of its span, and no others, also where a comparison is
refused. -/
theorem run_exchanged (order : Comparison α ε) (span : Span n) (some : span.start < span.stop)
    (items : Vector α n) (tally : Tally) :
    Exchanged span.start span.stop items (run order span some items tally).items := by
  have inside := span.inside
  have scanned := scan_exchanged order span items[span.stop - 1] (span.stop - 1 - span.start)
    span.start span.start (Nat.le_refl _) (Nat.le_refl _) (by omega) items tally
  refine Outcome.andThen_items _ _ (scanned.widen (Nat.le_refl _) (by omega)) ?_
  intro items tally position earlier
  have lower := position.lower
  have upper := position.upper
  exact earlier.further (by omega) (by omega) lower upper (by omega) (by omega)

end Partition

namespace Quick

/-- The recursive sort exchanges positions of its span, also when its room is exhausted. What it
leaves then is half sorted, but still a rearrangement. -/
theorem sort_exchanged (order : Comparison α ε) (exhausted : ε) (room depth : Nat)
    (span : Span n) (items : Vector α n) (tally : Tally) :
    Exchanged span.start span.stop items
      (sort order exhausted room depth span items tally).items := by
  induction room generalizing depth span items tally with
  | zero =>
    by_cases several : 2 ≤ span.size
    · rw [sort_without_room order exhausted depth span items tally several]
      exact .nothing items
    · rw [sort_trivial order exhausted depth span items tally 0 several]
      exact .nothing items
  | succ room inductionHypothesis =>
    by_cases several : 2 ≤ span.size
    · rw [sort_several order exhausted depth span items tally room several]
      refine Outcome.andThen_items _ _ (Partition.run_exchanged ..) ?_
      intro partitioned tally pivot first
      have lower := pivot.lower
      have upper := pivot.upper
      -- Each part of the span lies within it, so its exchanges are exchanges of the span.
      refine Outcome.andThen_items _ _ ?_ ?_
      · have left := inductionHypothesis (depth + 1) (span.before pivot) partitioned tally
        exact first.trans (left.widen (Nat.le_refl _) (Nat.le_of_lt upper))
      · intro sorted tally _ second
        have right := inductionHypothesis (depth + 1) (span.after pivot) sorted tally
        exact second.trans (right.widen (Nat.le_succ_of_le lower) (Nat.le_refl _))
    · rw [sort_trivial order exhausted depth span items tally (room + 1) several]
      exact .nothing items

end Quick

namespace Bubble

/-- A pass exchanges positions up to the last one that it reaches, whether or not it is refused on
the way. -/
theorem sweep_exchanged (order : Comparison α ε) (pairs i : Nat) (inside : i + pairs < n)
    (items : Vector α n) (tally : Tally) (exchanged : Bool) :
    Exchanged 0 (i + pairs + 1) items
      (sweep order pairs i inside items tally exchanged).items := by
  induction pairs generalizing i items tally exchanged with
  | zero => exact .nothing items
  | succ pairs inductionHypothesis =>
    have later (items : Vector α n) (tally : Tally) (exchanged : Bool) :
        Exchanged 0 (i + (pairs + 1) + 1) items
          (sweep order pairs (i + 1) (by omega) items tally exchanged).items :=
      (inductionHypothesis (i + 1) (by omega) items tally exchanged).widen (Nat.le_refl 0)
        (by omega)
    cases answer : order.gt items[i] items[i + 1] with
    | error error =>
      rw [sweep_refused order inside items tally exchanged answer]
      exact .nothing items
    | ok greater =>
      cases greater with
      | false =>
        rw [sweep_notGreater order inside items tally exchanged answer]
        exact later ..
      | true =>
        rw [sweep_greater order inside items tally exchanged answer]
        have exchange : Exchanged 0 (i + (pairs + 1) + 1) items (items.swap i (i + 1)) :=
          .further (.nothing items) (by omega) (by omega) (by omega) (by omega) (by omega)
            (by omega)
        exact exchange.trans (later ..)

theorem passes_exchanged (order : Comparison α ε) (pairs : Nat) (inside : pairs < n)
    (limit : Nat) (items : Vector α n) (tally : Tally) :
    Exchanged 0 (pairs + 1) items (passes order pairs inside limit items tally).items := by
  induction limit generalizing items tally with
  | zero => exact .nothing items
  | succ limit inductionHypothesis =>
    refine Outcome.andThen_items _ _ ?_ ?_
    · simpa only [Nat.zero_add] using sweep_exchanged order pairs 0 (by omega) items tally false
    · intro swept tally exchanged first
      cases exchanged with
      | false => exact first
      | true => exact first.trans (inductionHypothesis swept tally.passed)

/-- The bubble sort exchanges positions of the part that it sorts. What stands behind this part
stays where it is. -/
theorem sort_exchanged (order : Comparison α ε) (size : Nat) (inside : size ≤ n)
    (items : Vector α n) (tally : Tally) :
    Exchanged 0 size items (sort order size inside items tally).items := by
  unfold sort
  split
  case isTrue several =>
    exact (passes_exchanged order (size - 1) (by omega) size items tally).widen
      (Nat.le_refl 0) (by omega)
  case isFalse => exact .nothing items

end Bubble

end SortBench.Sorting
