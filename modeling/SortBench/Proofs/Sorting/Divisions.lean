import Mathlib.Tactic.Ring
import SortBench.Proofs.Sorting.Divided
import SortBench.Proofs.Sorting.Refused

/-!
# The tree of partitions

What a quicksort does to a range is a tree: a range of fewer than two items is left alone, and any
other is partitioned into the items in front of the pivot, the pivot and the items behind it. The
comparisons decide about the shape of the tree, and the tree decides about all work that is counted.
So each bound on the work is a fact about trees, with an induction over the tree behind it.
-/

namespace SortBench.Sorting

variable {α ε : Type} {n : Nat}

/-- A division of so many items by partitions. Each partition takes one item out, the pivot, and
divides the others in some way; one side may be empty, but not both. -/
inductive Division : Nat → Type
  /-- Fewer than two items are not partitioned. -/
  | few {size : Nat} (trivial : size ≤ 1) : Division size
  /-- Items on both sides of a pivot. -/
  | split {left right : Nat} (several : 0 < left + right) (before : Division left)
    (after : Division right) : Division (left + right + 1)

namespace Division

/-- The partitions of a division, one for each node that divides several items. -/
def partitions : {size : Nat} → Division size → Nat
  | _, few _ => 0
  | _, split _ before after => before.partitions + after.partitions + 1

/-- The levels of a division: the longest row of partitions, each of a side of the one before it. -/
def levels : {size : Nat} → Division size → Nat
  | _, few _ => 0
  | _, split _ before after => max before.levels after.levels + 1

/-- The comparisons of a division: a partition compares all items but the pivot with it. -/
def comparisons : {size : Nat} → Division size → Nat
  | _, few _ => 0
  | _, @split left right _ before after =>
    before.comparisons + after.comparisons + (left + right)

/-- The exchanges of a division: a partition makes one for each item that comes to stand in front of
the pivot, and one for the pivot. -/
def swaps : {size : Nat} → Division size → Nat
  | _, few _ => 0
  | _, @split left _ _ before after => before.swaps + after.swaps + (left + 1)

/-- The deepest of so many levels, from the given one on. Without levels nothing was reached, and
the counter stays at zero. -/
def deepest (depth : Nat) : Nat → Nat
  | 0 => 0
  | levels + 1 => depth + levels

/-- The work of a division whose first partition is at the given level. There are no passes in
it. -/
def work {size : Nat} (division : Division size) (depth : Nat) : Tally :=
  { comparisons := division.comparisons
    swaps := division.swaps
    partitions := division.partitions
    maxDepth := deepest depth division.levels }

/-- At every partition of a division the sizes of the two sides are related. -/
def Each (related : Nat → Nat → Prop) : {size : Nat} → Division size → Prop
  | _, few _ => True
  | _, @split left right _ before after =>
    related left right ∧ before.Each related ∧ after.Each related

variable {size : Nat}

/-- There is a partition on every level, so the deepest level is never beyond the number of
partitions. -/
theorem levels_le_partitions (division : Division size) :
    division.levels ≤ division.partitions := by
  induction division with
  | few trivial => exact Nat.le_refl _
  | split several before after inFront behind =>
    simp only [levels, partitions]
    omega

/-- Each partition but the last takes one item out of several. So there are fewer partitions than
items, which bounds the turns of the loop over a stack. -/
theorem partitions_le (division : Division size) : division.partitions ≤ size - 1 := by
  induction division with
  | few trivial => exact Nat.zero_le _
  | split several before after inFront behind =>
    simp only [partitions]
    omega

/-- Every item but one is compared when the whole is partitioned, that is, already on the first
level. -/
theorem le_comparisons (division : Division size) : size - 1 ≤ division.comparisons := by
  cases division with
  | few trivial => exact Nat.sub_le_of_le_add trivial
  | split several before after =>
    simp only [comparisons]
    omega

/-- No two items are compared more than once, for the pivot is on neither side and the sides are
never compared with each other. The bound is stated without a division by two. -/
theorem comparisons_le_pairs (division : Division size) :
    2 * division.comparisons + size ≤ size * size := by
  induction division with
  | few trivial =>
    obtain rfl | rfl := Nat.le_one_iff_eq_zero_or_eq_one.mp trivial <;> exact Nat.le_refl _
  | @split left right several before after inFront behind =>
    have square : (left + right + 1) * (left + right + 1) =
        left * left + right * right + 2 * (left * right) + 2 * (left + right) + 1 := by ring
    simp only [comparisons]
    omega

/-- On each level, an item is compared with one pivot at most. For divisions of few levels this is
the better bound, and it is the one that makes a quicksort quick. -/
theorem comparisons_le_levels (division : Division size) :
    division.comparisons ≤ division.levels * (size - 1) := by
  induction division with
  | few trivial => exact Nat.zero_le _
  | @split left right several before after inFront behind =>
    have first : before.levels * (left - 1) ≤ max before.levels after.levels * left :=
      Nat.mul_le_mul (Nat.le_max_left ..) (Nat.sub_le ..)
    have second : after.levels * (right - 1) ≤ max before.levels after.levels * right :=
      Nat.mul_le_mul (Nat.le_max_right ..) (Nat.sub_le ..)
    -- The first level has the comparisons with the pivot, the deeper ones those of both sides.
    have whole : (max before.levels after.levels + 1) * (left + right) =
        max before.levels after.levels * left + max before.levels after.levels * right +
          (left + right) := by ring
    simp only [comparisons, levels, Nat.add_sub_cancel]
    omega

/-- Each partition leaves at most two ranges of one item behind. So at least about half of the items
become pivots. -/
theorem size_le_partitions (division : Division size) : size ≤ 2 * division.partitions + 1 := by
  induction division with
  | few trivial => exact trivial
  | split several before after inFront behind =>
    simp only [partitions]
    omega

/-- One more level has at most twice the places. Read the other way, the levels are at least the
logarithm of the size, so that long arrays cannot be sorted on few levels. -/
theorem size_lt_two_pow (division : Division size) : size + 1 ≤ 2 ^ (division.levels + 1) := by
  induction division with
  | few trivial =>
    simp only [levels]
    omega
  | split several before after inFront behind =>
    have first : 2 ^ (before.levels + 1) ≤ 2 ^ (max before.levels after.levels + 1) :=
      Nat.pow_le_pow_right (by decide) (by omega)
    have second : 2 ^ (after.levels + 1) ≤ 2 ^ (max before.levels after.levels + 1) :=
      Nat.pow_le_pow_right (by decide) (by omega)
    rw [levels, Nat.pow_succ]
    omega

/-- The pivot of every partition is exchanged, if only with itself. -/
theorem partitions_le_swaps (division : Division size) :
    division.partitions ≤ division.swaps := by
  induction division with
  | few trivial => exact Nat.le_refl _
  | split several before after inFront behind =>
    simp only [partitions, swaps]
    omega

/-- Nothing else is exchanged that was not compared. So the exchanges of a sort are bounded by what
is known of its comparisons and partitions. -/
theorem swaps_le (division : Division size) :
    division.swaps ≤ division.comparisons + division.partitions := by
  induction division with
  | few trivial => exact Nat.le_refl _
  | split several before after inFront behind =>
    simp only [partitions, swaps, comparisons]
    omega

theorem deepest_one (levels : Nat) : deepest 1 levels = levels := by
  cases levels with
  | zero => rfl
  | succ levels => exact Nat.add_comm 1 levels

/-- The two sides of a partition start one level deeper than the partition. Together with it they
reach as deep as the deeper of the two, and one level more. -/
theorem max_deepest (depth before after : Nat) :
    max (max depth (deepest (depth + 1) before)) (deepest (depth + 1) after) =
      deepest depth (max before after + 1) := by
  cases before <;> cases after <;> simp only [deepest] <;> omega

/-- The work of a division, put together from a partition and the work of the two sides. This is the
step of every induction over the calls of a quicksort: the counters are merged in the order in which
the sort counts. -/
theorem merge_work_split {left right : Nat} (several : 0 < left + right) (before : Division left)
    (after : Division right) (tally : Tally) (depth : Nat) :
    (((tally.reached depth).merge
        { comparisons := left + right, swaps := left + 1, partitions := 1 }).merge
          (before.work (depth + 1))).merge (after.work (depth + 1)) =
      tally.merge ((split several before after).work depth) := by
  simp only [Tally.merge, Tally.reached, work, comparisons, swaps, partitions, levels,
    ← max_deepest, Tally.mk.injEq]
  exact ⟨by omega, by omega, trivial, by omega, by omega⟩

end Division

/-- What can be said of the work that sorting a range of so many items takes, however the
comparisons are answered. The bounds are stated in the figures of a tally, so that they can be
compared with what was counted. -/
structure Bounds (size : Nat) (work : Tally) : Prop where
  /-- There is a partition on every level. -/
  levels_le_partitions : work.maxDepth ≤ work.partitions
  /-- There are fewer partitions than items. -/
  partitions_le : work.partitions ≤ size - 1
  /-- All items but one are compared at least once. -/
  le_comparisons : size - 1 ≤ work.comparisons
  /-- No two items are compared more than once. -/
  comparisons_le_pairs : work.comparisons ≤ size * (size - 1) / 2
  /-- On each level, fewer items are compared than there are. -/
  comparisons_le_levels : work.comparisons ≤ work.maxDepth * (size - 1)
  /-- At least about half of the items become pivots. -/
  size_le_partitions : size ≤ 2 * work.partitions + 1
  /-- There are as many levels at least as a balanced tree has. -/
  size_lt_two_pow : size + 1 ≤ 2 ^ (work.maxDepth + 1)
  /-- Each partition makes an exchange. -/
  partitions_le_swaps : work.partitions ≤ work.swaps
  /-- Each other exchange follows a comparison. -/
  swaps_le : work.swaps ≤ work.comparisons + work.partitions
  /-- There are no passes. -/
  passes_eq : work.passes = 0

/-- The work of a division from the first level on is within bounds. Each bound is one of the lemmas
on divisions, brought into the figures that are counted. -/
theorem Division.bounds {size : Nat} (division : Division size) :
    Bounds size (division.work 1) := by
  have levels : (division.work 1).maxDepth = division.levels := deepest_one _
  have pairs : division.comparisons ≤ size * (size - 1) / 2 := by
    have twice := division.comparisons_le_pairs
    rw [Nat.le_div_iff_mul_le (by decide), Nat.mul_sub_one]
    omega
  constructor
  case levels_le_partitions => exact levels ▸ division.levels_le_partitions
  case partitions_le => exact division.partitions_le
  case le_comparisons => exact division.le_comparisons
  case comparisons_le_pairs => exact pairs
  case comparisons_le_levels => exact levels ▸ division.comparisons_le_levels
  case size_le_partitions => exact division.size_le_partitions
  case size_lt_two_pow => exact levels ▸ division.size_lt_two_pow
  case partitions_le_swaps => exact division.partitions_le_swaps
  case swaps_le => exact division.swaps_le
  case passes_eq => rfl

/-- A span is what stands before one of its positions, that position, and what stands after it. So
the sides of a pivot are the two sides of a division. -/
theorem Span.size_eq_sides (span : Span n) (position : span.Position) :
    span.size = (span.before position).size + (span.after position).size + 1 := by
  have lower := position.lower
  have upper := position.upper
  simp only [size, before, after]
  omega

namespace Partition

/-- A partition that ended well has compared every item but the last one, and has exchanged those
that are in front of the pivot now, and the pivot. The work of a partition can thus be told from
where it put the pivot. -/
theorem run_counts {order : Comparison α ε} {span : Span n} (several : 2 ≤ span.size)
    {items parted : Vector α n} {tally counted : Tally} {position : span.Position}
    (ended : run order span (span.start_lt_stop several) items tally =
      .done parted counted position) :
    counted = tally.merge
      { comparisons := (span.before position).size + (span.after position).size
        swaps := (span.before position).size + 1
        partitions := 1 } := by
  have last := span.last_lt several
  have some := span.start_lt_stop several
  have inside := span.inside
  have compared := (run_done_iff order span some last items tally).mp ⟨_, _, _, ended⟩
  have answered : ∀ item ∈ (items.toList.take (span.stop - 1)).drop span.start,
      ∃ answer, order.le item items[span.stop - 1] = .ok answer := by
    intro item member
    obtain ⟨k, bound, rfl⟩ := List.mem_iff_getElem.mp member
    simp only [List.length_drop, List.length_take, Vector.length_toList] at bound
    simpa using compared (span.start + k) (by omega) (by omega) (by omega)
  obtain ⟨result, divided, place, ran, index, _⟩ :=
    run_divides order span some items tally _ _ _ _ (span.toList_eq_front some items last)
      (by simp; omega) (by simp; omega) answered
  rw [ended] at ran
  cases ran
  have before : (span.before position).size =
      ((items.toList.take (span.stop - 1)).drop span.start).countP
        (order.atMost items[span.stop - 1]) := Nat.sub_eq_of_eq_add' index
  have both : (span.before position).size + (span.after position).size =
      ((items.toList.take (span.stop - 1)).drop span.start).length := by
    have size := span.size_eq_sides position
    unfold Span.size at size ⊢
    simp only [List.length_drop, List.length_take, Vector.length_toList]
    omega
  rw [work, ← before, ← both]

end Partition

/-- What the items of a range are like decides how partitions divide it: the sizes of the two sides
are related, and the items of both are like this again. Ascending and falling ranges are such, and
any range is if nothing is to be known. -/
structure Comparison.Guides (order : Comparison α ε) (shape : Nat → Nat → Vector α n → Prop)
    (related : Nat → Nat → Prop) : Prop where
  /-- Positions outside the range do not count. -/
  congr : ∀ {start stop : Nat} {items other : Vector α n}, shape start stop items →
    (∀ k (_ : k < n), start ≤ k → k < stop → other[k] = items[k]) → shape start stop other
  /-- What a partition that ended well leaves. -/
  divides : ∀ {span : Span n} (several : 2 ≤ span.size) {items parted : Vector α n}
    {tally counted : Tally} {position : span.Position}, shape span.start span.stop items →
    Partition.run order span (span.start_lt_stop several) items tally =
      .done parted counted position →
    related (span.before position).size (span.after position).size ∧
      shape span.start position.index parted ∧ shape (position.index + 1) span.stop parted

/-- Nothing need be known of the items for nothing to be known of the sides. In this way the general
bounds are a case of the guided ones. -/
theorem Comparison.guides_any (order : Comparison α ε) :
    order.Guides (n := n) (fun _ _ _ => True) fun _ _ => True :=
  ⟨fun _ _ => trivial, fun _ _ _ _ _ _ _ _ => ⟨trivial, trivial, trivial⟩⟩

namespace Quick

variable {order : Comparison α ε} {exhausted : ε} {shape : Nat → Nat → Vector α n → Prop}
  {related : Nat → Nat → Prop} {room depth : Nat} {span : Span n} {items after : Vector α n}
  {tally counted : Tally}

/-- A span of fewer than two items is not divided, and nothing is counted. It reaches no level
either, whatever the level at which it is sorted. -/
theorem sort_divides_few (few : ¬ 2 ≤ span.size)
    (ended : sort order exhausted room depth span items tally = .done after counted ()) :
    ∃ division : Division span.size,
      division.Each related ∧ counted = tally.merge (division.work depth) := by
  rw [sort_trivial _ _ _ _ _ _ _ few] at ended
  cases ended
  exact ⟨.few (Nat.le_of_lt_succ (Nat.lt_of_not_le few)), trivial, (Tally.merge_empty tally).symm⟩

/-- A sort that ended well has counted the work of a division of its span, and this is as the items
make it.

Proof: by induction on the room. The partition divides the span as the guide says, each side is
divided by the induction, and the three parts of the work are merged. -/
theorem sort_divides (guides : order.Guides shape related)
    (met : shape span.start span.stop items)
    (ended : sort order exhausted room depth span items tally = .done after counted ()) :
    ∃ division : Division span.size,
      division.Each related ∧ counted = tally.merge (division.work depth) := by
  induction room generalizing depth span items tally after counted with
  | zero =>
    by_cases several : 2 ≤ span.size
    · rw [sort_without_room _ _ _ _ _ _ several] at ended
      cases ended
    · exact sort_divides_few several ended
  | succ room inductionHypothesis =>
    by_cases several : 2 ≤ span.size
    · obtain ⟨parted, half, firstTally, secondTally, pivot, partition, left, right⟩ :=
        sort_done_several several ended
      obtain ⟨sides, first, second⟩ := guides.divides several met partition
      -- The sort of the first side does not touch the second one.
      have kept : Exchanged span.start pivot.index parted half :=
        Outcome.items_of_done left (sort_exchanged _ _ _ _ (span.before pivot) ..)
      have still : shape (pivot.index + 1) span.stop half :=
        guides.congr second fun k inside lower _ => kept.outside inside (Or.inr (by omega))
      obtain ⟨before, beforeEach, beforeWork⟩ := inductionHypothesis first left
      obtain ⟨behind, behindEach, behindWork⟩ := inductionHypothesis still right
      have size := span.size_eq_sides pivot
      have some : 0 < (span.before pivot).size + (span.after pivot).size := by omega
      rw [size]
      refine ⟨.split some before behind, ⟨sides, beforeEach, behindEach⟩, ?_⟩
      rw [behindWork, beforeWork, Partition.run_counts several partition,
        Division.merge_work_split]
    · exact sort_divides_few several ended

end Quick

namespace Pending

variable {order : Comparison α ε} {among : α → Prop}

/-- On items that can be compared the quicksort over a stack ends well, with the work of a division
that is as the items make it. That it ends well needs no order of the items, only that no comparison
is refused. -/
theorem sort_divides (exhausted : ε) (answers : order.Answers among) {span : Span n}
    {items : Vector α n} (held : Holds among span.start span.stop items)
    {shape : Nat → Nat → Vector α n → Prop} {related : Nat → Nat → Prop}
    (guides : order.Guides shape related)
    (met : shape span.start span.stop items) :
    ∃ (after : Vector α n) (division : Division span.size), division.Each related ∧
      sort order span items {} = .done after (division.work 1) () := by
  obtain ⟨after, counted, ended⟩ := sort_completes answers span items {} held
  have recursive := ended
  rw [sort_eq_quick order exhausted span.size span (Nat.le_refl _)] at recursive
  obtain ⟨division, each, work⟩ := Quick.sort_divides guides met recursive
  rw [Tally.empty_merge] at work
  exact ⟨after, division, each, work ▸ ended⟩

/-- The quicksort over a stack ends well on items that can be compared, with its work within bounds.
The recursive one does the same with room for the levels of the tree, and gives up with less; there
is no third way for it to end. -/
theorem sort_bounded (exhausted : ε) (answers : order.Answers among) (span : Span n)
    (items : Vector α n) (held : Holds among span.start span.stop items) :
    ∃ after counted, sort order span items {} = .done after counted () ∧
      Bounds span.size counted ∧
      ∀ room,
        (counted.maxDepth ≤ room ∧
            Quick.sort order exhausted room 1 span items {} = .done after counted ()) ∨
          (room < counted.maxDepth ∧
            (Quick.sort order exhausted room 1 span items {}).result = .error exhausted) := by
  obtain ⟨after, division, -, ended⟩ :=
    sort_divides exhausted answers held order.guides_any trivial
  refine ⟨after, division.work 1, ended, division.bounds, fun room => ?_⟩
  have either := Quick.sort_eq_pending_or_exhausted order exhausted room span items {}
  rw [ended] at either
  exact either

end Pending

end SortBench.Sorting
