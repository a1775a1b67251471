import SortBench.Proofs.Sorting.Divisions

/-!
# Lopsided divisions

The quicksorts are slowest where every partition has all other items on one side of the pivot. Then
each of them takes a single item out, there are as many levels as partitions, and every two items
are compared. So it is for a range that is sorted already and for one that stands in the reverse
order.

In an ascending range every pivot is a last item that no other exceeds, and every exchange is one of
an item with itself, so that no item moves, tied items included. In a falling range the pivot is a
least item; it changes places with the first one, which is a greatest. What is left after the pivot
is a falling range with a greatest item behind it; its pivot is that item, and what is left before
it is falling again. The two kinds of range take turns, and one condition covers both.
-/

namespace SortBench.Sorting

variable {α ε : Type} {n : Nat}

namespace Division

/-- A division whose partitions have an empty side is lopsided. It takes as many partitions, levels
and comparisons as any division of so many items can. -/
def IsLopsided {size : Nat} (division : Division size) : Prop :=
  division.Each fun left right => left = 0 ∨ right = 0

/-- A lopsided division takes one item after another out, until one is left. The last one is not
partitioned. -/
theorem IsLopsided.partitions_eq {size : Nat} {division : Division size}
    (lopsided : division.IsLopsided) : division.partitions = size - 1 := by
  induction division with
  | few trivial =>
    simp only [partitions]
    omega
  | split several before after inFront behind =>
    obtain ⟨_, first, second⟩ := lopsided
    simp only [partitions, inFront first, behind second]
    omega

/-- Each of its partitions has a level of its own, as each is of the one side that has items. This
is what exhausts the room of a recursive sort. -/
theorem IsLopsided.levels_eq {size : Nat} {division : Division size}
    (lopsided : division.IsLopsided) : division.levels = size - 1 := by
  induction division with
  | few trivial =>
    simp only [levels]
    omega
  | split several before after inFront behind =>
    obtain ⟨sides, first, second⟩ := lopsided
    simp only [levels, inFront first, behind second]
    omega

/-- It compares every two items. So the bound on the comparisons of any division is attained. -/
theorem IsLopsided.comparisons_eq {size : Nat} {division : Division size}
    (lopsided : division.IsLopsided) : 2 * division.comparisons + size = size * size := by
  induction division with
  | few trivial =>
    obtain rfl | rfl := Nat.le_one_iff_eq_zero_or_eq_one.mp trivial <;> rfl
  | @split left right several before after inFront behind =>
    obtain ⟨sides, first, second⟩ := lopsided
    have pairs := inFront first
    have others := behind second
    have apart : left * right = 0 := Nat.mul_eq_zero.mpr sides
    have square : (left + right + 1) * (left + right + 1) =
        left * left + right * right + 2 * (left * right) + 2 * (left + right) + 1 := by ring
    simp only [comparisons]
    omega

/-- If no item is greater than a pivot, every comparison and every partition has an exchange: each
item is kept where it stands, and that is done by exchanging it with itself. -/
theorem swaps_eq {size : Nat} {division : Division size}
    (each : division.Each fun _ right => right = 0) :
    division.swaps = division.comparisons + division.partitions := by
  induction division with
  | few trivial => rfl
  | split several before after inFront behind =>
    obtain ⟨empty, first, second⟩ := each
    simp only [swaps, comparisons, partitions, inFront first, behind second]
    omega

theorem Each.mono {related looser : Nat → Nat → Prop}
    (implied : ∀ left right, related left right → looser left right) {size : Nat}
    {division : Division size} (each : division.Each related) : division.Each looser := by
  induction division with
  | few trivial => trivial
  | split several before after inFront behind =>
    obtain ⟨here, first, second⟩ := each
    exact ⟨implied _ _ here, inFront first, behind second⟩

end Division

/-- The work of taking so many items out one by one, each compared with all others that are left.
Only the exchanges depend on how the items are arranged. -/
def Tally.oneByOne (size swaps : Nat) : Tally :=
  { comparisons := size * (size - 1) / 2
    swaps
    partitions := size - 1
    maxDepth := size - 1 }

/-- The work of a lopsided division from the first level on, in the figures of a tally. It is the
same for an ascending and for a falling span but for the exchanges. -/
theorem Division.IsLopsided.work_eq {size : Nat} {division : Division size}
    (lopsided : division.IsLopsided) : division.work 1 = .oneByOne size division.swaps := by
  have pairs : division.comparisons = size * (size - 1) / 2 := by
    have twice := lopsided.comparisons_eq
    rw [Nat.mul_sub_one]
    omega
  rw [work, deepest_one, lopsided.levels_eq, lopsided.partitions_eq, pairs, Tally.oneByOne]

namespace Partition

variable (order : Comparison α ε) (span : Span n)

/-- A scan that finds no item greater exchanges each with itself, and so leaves the array as it
is. -/
theorem scan_of_notGreater (pivot : α) (remaining j : Nat) (lower : span.start ≤ j)
    (upper : j + remaining < span.stop) (items : Vector α n) (tally : Tally)
    (notGreater : ∀ k (_ : k < n), j ≤ k → k < j + remaining →
      order.le items[k] pivot = .ok true) :
    ∃ counted position,
      scan order span pivot remaining j j lower (Nat.le_refl j) upper items tally =
        .done items counted position ∧ position.index = j + remaining := by
  induction remaining generalizing j tally with
  | zero => exact ⟨_, _, rfl, rfl⟩
  | succ remaining inductionHypothesis =>
    have inside : j < n := by
      have := span.inside
      omega
    rw [scan_notGreater order span pivot lower (Nat.le_refl j) upper inside items tally
      (notGreater j inside (Nat.le_refl j) (by omega)), swap_same]
    obtain ⟨counted, position, ended, index⟩ := inductionHypothesis (j + 1) (by omega) (by omega)
      tally.compared.swapped fun k inside lower upper => notGreater k inside (by omega) (by omega)
    exact ⟨counted, position, ended, by omega⟩

/-- A scan that finds all items greater exchanges none, and answers the place from which it
started. -/
theorem scan_of_greater (pivot : α) (remaining store j : Nat) (lower : span.start ≤ store)
    (behind : store ≤ j) (upper : j + remaining < span.stop) (items : Vector α n) (tally : Tally)
    (greater : ∀ k (_ : k < n), j ≤ k → k < j + remaining →
      order.le items[k] pivot = .ok false) :
    ∃ counted position,
      scan order span pivot remaining store j lower behind upper items tally =
        .done items counted position ∧ position.index = store := by
  induction remaining generalizing j tally with
  | zero => exact ⟨_, _, rfl, rfl⟩
  | succ remaining inductionHypothesis =>
    have inside : j < n := by
      have := span.inside
      omega
    rw [scan_greater order span pivot lower behind upper inside items tally
      (greater j inside (Nat.le_refl j) (by omega))]
    exact inductionHypothesis (j + 1) (by omega) (by omega) tally.compared
      fun k inside lower upper => greater k inside (by omega) (by omega)

variable {order span}

/-- A partition around an item that no other exceeds moves nothing: the pivot stays at the end, with
nothing behind it. -/
theorem run_of_notGreater {some : span.start < span.stop} {items parted : Vector α n}
    {tally counted : Tally} {position : span.Position} (last : span.stop - 1 < n)
    (notGreater : ∀ k (_ : k < n), span.start ≤ k → k < span.stop - 1 →
      order.le items[k] items[span.stop - 1] = .ok true)
    (ended : run order span some items tally = .done parted counted position) :
    parted = items ∧ position.index = span.stop - 1 := by
  have inside : position.index < n := Nat.lt_of_lt_of_le position.upper span.inside
  obtain ⟨between, earlier, scanned, rfl⟩ := run_done inside last ended
  obtain ⟨_, found, same, index⟩ := scan_of_notGreater order span items[span.stop - 1]
    (span.stop - 1 - span.start) span.start (Nat.le_refl _) (by omega) items tally
      fun k inside lower upper => notGreater k inside lower (by omega)
  rw [scanned] at same
  cases same
  have final : position.index = span.stop - 1 := by omega
  simp only [final, swap_same, and_self]

/-- A partition around an item that all others exceed exchanges it with the first one. The others
are not in the order of before: the first of them is the last now. -/
theorem run_of_greater {some : span.start < span.stop} {items parted : Vector α n}
    {tally counted : Tally} {position : span.Position} (first : span.start < n)
    (last : span.stop - 1 < n)
    (greater : ∀ k (_ : k < n), span.start ≤ k → k < span.stop - 1 →
      order.le items[k] items[span.stop - 1] = .ok false)
    (ended : run order span some items tally = .done parted counted position) :
    parted = items.swap span.start (span.stop - 1) ∧ position.index = span.start := by
  have inside : position.index < n := Nat.lt_of_lt_of_le position.upper span.inside
  obtain ⟨between, earlier, scanned, rfl⟩ := run_done inside last ended
  obtain ⟨_, found, same, index⟩ := scan_of_greater order span items[span.stop - 1]
    (span.stop - 1 - span.start) span.start span.start (Nat.le_refl _) (Nat.le_refl _) (by omega)
      items tally fun k inside lower upper => greater k inside lower (by omega)
  rw [scanned] at same
  cases same
  simp only [index, and_self]

end Partition

theorem Ascending.narrow {order : Comparison α ε} {lower upper start stop : Nat}
    {items : Vector α n} (ascending : Ascending order lower upper items)
    (lowerEnd : lower ≤ start) (upperEnd : stop ≤ upper) : Ascending order start stop items :=
  fun i j before inside first last => ascending i j before inside (by omega) (by omega)

/-- An ascending range is divided with nothing behind the pivot, and the items in front of it are an
ascending range again. They are not moved at all. -/
theorem Comparison.guides_ascending (order : Comparison α ε) :
    order.Guides (n := n) (Ascending order) fun _ right => right = 0 := by
  refine ⟨fun ascending same => ascending.congr same, ?_⟩
  intro span several items parted tally counted position ascending ended
  have last := span.last_lt several
  obtain ⟨rfl, index⟩ := Partition.run_of_notGreater last
    (fun k inside lower upper => ascending k _ upper last lower (by omega)) ended
  refine ⟨?_, ?_, ?_⟩
  · simp only [Span.size, Span.after]
    omega
  · exact ascending.narrow (Nat.le_refl _) (Nat.le_of_lt position.upper)
  · exact ascending.narrow (Nat.le_succ_of_le position.lower) (Nat.le_refl _)

/-- In a range every item is greater than those at later positions. -/
def Falling (order : Comparison α ε) (start stop : Nat) (items : Vector α n) : Prop :=
  ∀ i j (_ : i < n) (_ : j < n), start ≤ i → i < j → j < stop →
    order.le items[i] items[j] = .ok false ∧ order.le items[j] items[i] = .ok true

/-- A range is falling, or its last item is not less than the others and these are falling. A
partition of a falling range leaves a range of the second kind, and one of these leaves a falling
range, so both have to be followed together. -/
def FallingUpToLast (order : Comparison α ε) (start stop : Nat) (items : Vector α n) : Prop :=
  Falling order start stop items ∨
    Falling order start (stop - 1) items ∧ ∀ k (_ : k < n) (_ : stop - 1 < n), start ≤ k →
      k < stop - 1 → order.le items[k] items[stop - 1] = .ok true

theorem Falling.congr {order : Comparison α ε} {start stop : Nat} {items other : Vector α n}
    (falling : Falling order start stop items)
    (same : ∀ k (_ : k < n), start ≤ k → k < stop → other[k] = items[k]) :
    Falling order start stop other := by
  intro i j first second lower before upper
  rw [same i first lower (by omega), same j second (by omega) upper]
  exact falling i j first second lower before upper

/-- A range that is falling up to its last item is divided with nothing on one side of the pivot,
and the items on the other side are falling up to the last one.

Proof: if the whole range is falling, the pivot goes to the front in exchange for the first item,
which then is the last one and exceeds the rest. If the last item is not less than the others, it
stays, and the rest is falling. -/
theorem Comparison.guides_falling (order : Comparison α ε) :
    order.Guides (n := n) (FallingUpToLast order) fun left right => left = 0 ∨ right = 0 := by
  constructor
  case congr =>
    intro start stop items other shape same
    obtain falling | ⟨falling, below⟩ := shape
    · exact Or.inl (falling.congr same)
    · refine Or.inr ⟨falling.congr fun k inside lower upper => same k inside lower (by omega), ?_⟩
      intro k inside last lower upper
      rw [same k inside lower (by omega), same _ last (by omega) (by omega)]
      exact below k inside last lower upper
  case divides =>
    intro span several items parted tally counted position shape ended
    have some := span.start_lt_stop several
    have last := span.last_lt several
    have first : span.start < n := Nat.lt_of_lt_of_le some span.inside
    obtain falling | ⟨falling, below⟩ := shape
    · -- The last item is the least one, and the first one, a greatest, takes its place.
      obtain ⟨rfl, index⟩ := Partition.run_of_greater first last
        (fun k inside lower upper => (falling k _ inside last lower upper (by omega)).1) ended
      refine ⟨?_, ?_, ?_⟩
      · simp only [Span.size, Span.before]
        omega
      · exact Or.inl fun i j _ _ lower before upper => by omega
      · have apart (k : Nat) (inside : k < n) (lower : span.start < k) (upper : k < span.stop - 1) :
            (items.swap span.start (span.stop - 1))[k] = items[k] :=
          Vector.getElem_swap_of_ne (by omega) (by omega)
        refine Or.inr ⟨?_, ?_⟩
        · intro i j first second lower before upper
          rw [apart i first (by omega) (by omega), apart j second (by omega) upper]
          exact falling i j first second (by omega) before (by omega)
        · intro k inside _ lower upper
          rw [apart k inside (by omega) upper, Vector.getElem_swap_right]
          exact (falling span.start k first inside (Nat.le_refl _) (by omega) (by omega)).2
    · -- The last item stays where it is, and those in front of it are falling.
      obtain ⟨rfl, index⟩ := Partition.run_of_notGreater last
        (fun k inside lower upper => below k inside last lower upper) ended
      refine ⟨?_, ?_, ?_⟩
      · simp only [Span.size, Span.after]
        omega
      · exact Or.inl (index ▸ falling)
      · exact Or.inl fun i j _ _ lower before upper => by omega

theorem Outcome.andThen_kept {β γ : Type} {outcome : Outcome α ε β n}
    {next : Vector α n → Tally → β → Outcome α ε γ n} {items : Vector α n}
    (first : outcome.items = items)
    (second : ∀ tally answer, (next items tally answer).items = items) :
    (outcome.andThen next).items = items := by
  obtain ⟨_, tally, answer, rfl⟩ | ⟨_, tally, error, rfl⟩ := outcome.done_or_failed
  · obtain rfl : _ = items := first
    exact second tally answer
  · exact first

/-- A sort of an ascending span moves nothing, whatever its room and however it ends. Even a sort
that gives up half-way has only exchanged items with themselves. -/
theorem Quick.sort_kept {order : Comparison α ε} (exhausted : ε) (room depth : Nat) (span : Span n)
    (items : Vector α n) (tally : Tally) (ascending : Ascending order span.start span.stop items) :
    (sort order exhausted room depth span items tally).items = items := by
  induction room generalizing depth span tally with
  | zero =>
    by_cases several : 2 ≤ span.size
    · rw [sort_without_room _ _ _ _ _ _ several]
      rfl
    · rw [sort_trivial _ _ _ _ _ _ _ several]
      rfl
  | succ room inductionHypothesis =>
    by_cases several : 2 ≤ span.size
    · have last := span.last_lt several
      have notGreater (k : Nat) (inside : k < n) (lower : span.start ≤ k)
          (upper : k < span.stop - 1) : order.le items[k] items[span.stop - 1] = .ok true :=
        ascending k _ upper last lower (by omega)
      obtain ⟨parted, counted, pivot, ended⟩ :=
        (Partition.run_done_iff order span (span.start_lt_stop several) last items
          (tally.reached depth)).mpr fun k inside lower upper =>
            ⟨true, notGreater k inside lower upper⟩
      obtain ⟨rfl, -⟩ := Partition.run_of_notGreater last notGreater ended
      have lower := pivot.lower
      have upper := pivot.upper
      rw [sort_several _ _ _ _ _ _ _ several, ended, Outcome.andThen_done]
      -- Wherever the pivot stands, both sides are ascending, and neither is moved.
      apply Outcome.andThen_kept
      · exact inductionHypothesis _ (span.before pivot) _
          (ascending.narrow (Nat.le_refl _) (Nat.le_of_lt upper))
      · intro tally _
        exact inductionHypothesis _ (span.after pivot) _
          (ascending.narrow (Nat.le_succ_of_le lower) (Nat.le_refl _))
    · rw [sort_trivial _ _ _ _ _ _ _ several]
      rfl

namespace Pending

variable {order : Comparison α ε} {among : α → Prop} {span : Span n} {items : Vector α n}

/-- The quicksort over a stack moves nothing in an ascending span. It takes the items out one by one
from the end, and exchanges each with itself whenever it is compared or taken out. So an array that
needs no sorting is the worst case. -/
theorem sort_of_ascending (exhausted : ε) (answers : order.Answers among)
    (held : Holds among span.start span.stop items)
    (ascending : Ascending order span.start span.stop items) :
    sort order span items {} = .done items
      (.oneByOne span.size (span.size * (span.size - 1) / 2 + (span.size - 1))) () := by
  obtain ⟨after, division, each, ended⟩ :=
    sort_divides exhausted answers held order.guides_ascending ascending
  have kept : after = items := by
    have whole := Quick.sort_kept exhausted span.size 1 span items {} ascending
    rw [← sort_eq_quick order exhausted span.size span (Nat.le_refl _), ended] at whole
    exact whole
  have lopsided : division.IsLopsided := each.mono fun _ _ empty => Or.inr empty
  have work : division.work 1 = .oneByOne span.size division.swaps := lopsided.work_eq
  have swaps : division.swaps = span.size * (span.size - 1) / 2 + (span.size - 1) := by
    rw [Division.swaps_eq each]
    exact congrArg₂ (· + ·) (congrArg Tally.comparisons work) (congrArg Tally.partitions work)
  rw [ended, kept, work, swaps]

/-- The quicksort over a stack takes the items of a falling span out one by one, from both ends in
turn. How many exchanges this takes is left open. -/
theorem sort_of_falling (exhausted : ε) (answers : order.Answers among)
    (held : Holds among span.start span.stop items)
    (falling : Falling order span.start span.stop items) :
    ∃ after swaps,
      sort order span items {} = .done after (.oneByOne span.size swaps) () := by
  obtain ⟨after, division, lopsided, ended⟩ :=
    sort_divides exhausted answers held order.guides_falling (Or.inl falling)
  exact ⟨after, division.swaps, by rw [ended, Division.IsLopsided.work_eq lopsided]⟩

end Pending

namespace Bubble

/-- A pass that finds no pair out of order moves nothing, and answers what it was given about
earlier exchanges. -/
theorem sweep_of_notGreater (order : Comparison α ε) (pairs i : Nat) (inside : i + pairs < n)
    (items : Vector α n) (tally : Tally) (exchanged : Bool)
    (notGreater : ∀ k (_ : k < n) (_ : k + 1 < n), i ≤ k → k < i + pairs →
      order.gt items[k] items[k + 1] = .ok false) :
    sweep order pairs i inside items tally exchanged =
      .done items (tally.merge { comparisons := pairs }) exchanged := by
  induction pairs generalizing i tally with
  | zero =>
    have nothing : tally.merge { comparisons := 0 } = tally := tally.merge_empty
    rw [nothing]
    rfl
  | succ pairs inductionHypothesis =>
    rw [sweep_notGreater order inside items tally exchanged
        (notGreater i (by omega) (by omega) (Nat.le_refl i) (by omega)),
      inductionHypothesis (i + 1) _ _ fun k first second lower upper =>
        notGreater k first second (by omega) (by omega),
      Tally.compared_merge]
    rfl

/-- The bubble sort makes one pass over items of which none is greater than the next one, and moves
nothing. No order of the items is needed for this: adjacent pairs are all that it looks at. -/
theorem sort_of_notGreater (order : Comparison α ε) {size : Nat} (several : 2 ≤ size)
    (fits : size ≤ n) (items : Vector α n) (tally : Tally)
    (notGreater : ∀ k (_ : k < n) (_ : k + 1 < n), k + 1 < size →
      order.gt items[k] items[k + 1] = .ok false) :
    sort order size fits items tally =
      .done items (tally.merge { comparisons := size - 1, passes := 1 }) () := by
  obtain ⟨limit, rfl⟩ : ∃ limit, size = limit + 1 := ⟨size - 1, by omega⟩
  rw [sort, dif_pos several, passes_succ, sweep_of_notGreater order _ 0 _ items tally false
    fun k first second _ upper => notGreater k first second (by omega)]
  rfl

end Bubble

end SortBench.Sorting
