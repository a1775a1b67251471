import SortBench.Proofs.Sorting.Divisions

/-!
# The heads of the loop over a stack

Between two turns of the loop the stack, the items and the tally are tied together. The pending
spans stand on the stack as they lie in the range, the leftmost on top, with a settled item between
any two of them. Two items may be out of order only if one pending span has both. The level of each
pending span exceeds the number of spans below it, which is what bounds the stack by the deepest
level: the part before a pivot is worked off before the part after it is looked at.

A turn either takes off a span of fewer than two items, or replaces a span by its two parts. Both
keep the tie, so it holds at every head. Each turn takes off one span, and each partition puts two
back, hence the number of turns that the loop takes.
-/

namespace SortBench.Sorting

variable {α ε : Type} {n : Nat}

def Span.Covers (span : Span n) (k : Nat) : Prop :=
  span.start ≤ k ∧ k < span.stop

/-- After a partition that ended well two items of the span are in order, unless both lie before the
pivot or both lie after it. Items on different sides are compared through the pivot. -/
theorem Partition.run_ordered {order : Comparison α ε} {among : α → Prop}
    (ranks : order.Ranks among) {span : Span n} {some : span.start < span.stop}
    {items parted : Vector α n} {tally counted : Tally} {pivot : span.Position}
    (held : Holds among span.start span.stop items)
    (ended : run order span some items tally = .done parted counted pivot) {x y : Nat}
    (before : x < y) (inside : y < n) (lower : span.start ≤ x) (upper : y < span.stop)
    (divided : x ≤ pivot.index ∧ pivot.index ≤ y) :
    order.le parted[x] parted[y] = .ok true := by
  have last : span.stop - 1 < n := by
    have := span.inside
    omega
  have pivotUpper := pivot.upper
  obtain ⟨pivotKept, notGreater, greater⟩ := run_parted (by omega) last ended
  have pivotAmong : among items[span.stop - 1] := held _ last (by omega) (by omega)
  have kept : Exchanged span.start span.stop items parted :=
    Outcome.items_of_done ended (run_exchanged ..)
  have heldParted := kept.holds (Nat.le_refl _) (Nat.le_refl _) held
  have above (far : pivot.index < y) : order.le items[span.stop - 1] parted[y] = .ok true :=
    ranks.total (heldParted y inside (by omega) upper) pivotAmong (greater y inside far upper)
  obtain atPivot | beforePivot := Nat.eq_or_lt_of_le divided.1
  · subst atPivot
    rw [pivotKept]
    exact above before
  · have below := notGreater x (by omega) lower beforePivot
    obtain atPivot | afterPivot := Nat.eq_or_lt_of_le divided.2
    · subst atPivot
      rw [pivotKept]
      exact below
    · exact ranks.trans (heldParted x (by omega) lower (by omega)) pivotAmong
        (heldParted y inside (by omega) upper) below (above afterPivot)

namespace Pending

/-- The heads of the loop that sorts a span of the items from an empty tally: how many spans were
taken off the stack so far, the stack, and the items and the tally as they then are. Only turns that
ended well lead on. -/
inductive Reaches (order : Comparison α ε) (span : Span n) (items : Vector α n) :
    Nat → List (Pending n) → Vector α n → Tally → Prop where
  /-- The loop begins with the whole span. -/
  | start : Reaches order span items 0 [⟨span, 1⟩] items {}
  /-- A turn that ended well leads from one head to the next. -/
  | next {popped : Nat} {top : Pending n} {rest : List (Pending n)} {now after : Vector α n}
      {tally counted : Tally}
      {left : { stack : List (Pending n) // weight stack < weight (top :: rest) }}
      (earlier : Reaches order span items popped (top :: rest) now tally)
      (turned : turn order top rest now tally = .done after counted left) :
      Reaches order span items (popped + 1) left.val after counted

/-- The level of each span of a stack exceeds the number of spans below it. So the height of the
stack is bounded by the levels, although both sides of every pivot are pushed. -/
def Deepening : List (Pending n) → Prop
  | [] => True
  | top :: rest => rest.length < top.depth ∧ Deepening rest

/-- What ties the stack, the items and the tally together at a head of the loop. It is the invariant
of the loop: true of the first head, kept by every turn, and with an empty stack it says that the
span is sorted. -/
structure Head (order : Comparison α ε) (span : Span n) (items : Vector α n) (popped : Nat)
    (stack : List (Pending n)) (now : Vector α n) (tally : Tally) : Prop where
  /-- The pending spans lie in the whole span. -/
  within : ∀ pending ∈ stack, span.start ≤ pending.span.start ∧ pending.span.stop ≤ span.stop
  /-- From the top of the stack to its bottom the pending spans, also those without any item,
  follow each other from left to right, with a position between any two of them. -/
  apart : stack.Pairwise fun upper lower => upper.span.stop < lower.span.start
  /-- Two items are in order, unless both are of one pending span. -/
  ordered : ∀ x y (_ : x < n) (_ : y < n), x < y → span.start ≤ x → y < span.stop →
    (∀ pending ∈ stack, ¬ (pending.span.Covers x ∧ pending.span.Covers y)) →
      order.le now[x] now[y] = .ok true
  /-- So far positions of the span were exchanged. -/
  exchanged : Exchanged span.start span.stop items now
  /-- The levels grow from the bottom of the stack to its top. -/
  deepening : Deepening stack
  /-- A pending span is at most one level deeper than the deepest partitioned one. -/
  shallow : ∀ pending ∈ stack, pending.depth ≤ tally.maxDepth + 1
  /-- Each span that was pushed was popped or is pending; a partition pushes two. -/
  balanced : popped + stack.length = 2 * tally.partitions + 1

theorem turn_few (order : Comparison α ε) (top : Pending n) (rest : List (Pending n))
    (items : Vector α n) (tally : Tally) (few : ¬ 2 ≤ top.span.size) :
    turn order top rest items tally = .done items tally ⟨rest, weight_rest_lt top rest⟩ := by
  simp only [turn, few, ↓reduceDIte]

/-- A turn with any other span puts its parts in its place, if the partition ended well. The part
before the pivot is on top, so it is worked off first. -/
theorem turn_several {order : Comparison α ε} {top : Pending n} {rest : List (Pending n)}
    {items parted : Vector α n} {tally counted : Tally} {pivot : top.span.Position}
    (several : 2 ≤ top.span.size)
    (partition : Partition.run order top.span (top.span.start_lt_stop several) items
      (tally.reached top.depth) = .done parted counted pivot) :
    turn order top rest items tally =
      .done parted counted ⟨top.split pivot rest, weight_split_lt top pivot rest⟩ := by
  simp only [turn, several, ↓reduceDIte, partition, Outcome.andThen_done]

/-- After a turn that ended well the loop goes on with what it left. -/
theorem drain_turn {order : Comparison α ε} {top : Pending n} {rest : List (Pending n)}
    {items after : Vector α n} {tally counted : Tally}
    {left : { stack : List (Pending n) // weight stack < weight (top :: rest) }}
    (turned : turn order top rest items tally = .done after counted left) :
    drain order (top :: rest) items tally = drain order left.val after counted := by
  rw [drain, turned]
  rfl

section

variable {order : Comparison α ε} {among : α → Prop} {span : Span n}
  {items now after : Vector α n} {popped : Nat} {top : Pending n} {stack rest : List (Pending n)}
  {tally counted : Tally}

/-- What follows a head of the loop is the rest of the sort. So whatever is proved of the last head
is proved of the outcome. -/
theorem Reaches.drain_eq (reached : Reaches order span items popped stack now tally) :
    drain order stack now tally = sort order span items {} := by
  induction reached with
  | start => rfl
  | next _ turned inductionHypothesis => rw [← drain_turn turned, inductionHypothesis]

/-- A stack whose levels grow is not higher than the level of its top, which in turn is not beyond
the deepest level by more than one. -/
theorem Deepening.length_le (deepening : Deepening stack) {bound : Nat}
    (shallow : ∀ pending ∈ stack, pending.depth ≤ bound) : stack.length ≤ bound := by
  cases stack with
  | nil => exact Nat.zero_le _
  | cons top rest => exact Nat.le_trans deepening.1 (shallow top List.mem_cons_self)

namespace Head

/-- The first head: the whole span is pending, nothing was exchanged, and no two items are known to
be in order. -/
theorem first (order : Comparison α ε) (span : Span n) (items : Vector α n) :
    Head order span items 0 [⟨span, 1⟩] items {} where
  within := by simp
  apart := by simp
  ordered x y _ _ before lower upper separate := by
    refine absurd ⟨?_, ?_⟩ (separate _ List.mem_cons_self)
    · exact ⟨lower, Nat.lt_trans before upper⟩
    · exact ⟨Nat.le_trans lower (Nat.le_of_lt before), upper⟩
  exchanged := .nothing items
  deepening := ⟨Nat.one_pos, trivial⟩
  shallow := by simp
  balanced := rfl

/-- The spans below the top of the stack lie to the right of the top span, with at least a pivot
between. -/
theorem below_top (head : Head order span items popped (top :: rest) now tally) :
    ∀ pending ∈ rest, top.span.stop < pending.span.start :=
  (List.pairwise_cons.mp head.apart).1

/-- The spans below the top cover nothing of it, nor the position behind it. -/
theorem not_covers_rest (head : Head order span items popped (top :: rest) now tally)
    {k : Nat} (near : k ≤ top.span.stop) : ∀ pending ∈ rest, ¬ pending.span.Covers k := by
  intro pending member covered
  exact absurd (head.below_top pending member) (Nat.not_lt_of_le (Nat.le_trans covered.1 near))

/-- An item to the right of the top span is not less than any item of it. No pending span covers the
two, so they are in order already. -/
theorem top_le (head : Head order span items popped (top :: rest) now tally) {y : Nat}
    (inside : y < n) (beyond : top.span.stop ≤ y) (upper : y < span.stop) :
    Holds (fun item => order.le item now[y] = .ok true) top.span.start top.span.stop now := by
  intro x position xLower xUpper
  have lower := (head.within top List.mem_cons_self).1
  refine head.ordered x y position inside (by omega) (by omega) upper ?_
  refine List.forall_mem_cons.mpr ⟨fun both => ?_, fun pending member both => ?_⟩
  · exact absurd both.2.2 (Nat.not_lt_of_le beyond)
  · exact head.not_covers_rest (Nat.le_of_lt xUpper) pending member both.1

/-- An item to the left of the top span is not greater than any item of it. Nothing to the left is
pending, so this stays true to the end. -/
theorem le_top (head : Head order span items popped (top :: rest) now tally) {x : Nat}
    (inside : x < n) (lower : span.start ≤ x) (beyond : x < top.span.start) :
    Holds (fun item => order.le now[x] item = .ok true) top.span.start top.span.stop now := by
  intro y position yLower yUpper
  have upper := (head.within top List.mem_cons_self).2
  refine head.ordered x y inside position (by omega) lower (by omega) ?_
  refine List.forall_mem_cons.mpr ⟨fun both => ?_, fun pending member both => ?_⟩
  · exact absurd both.1.1 (Nat.not_le_of_lt beyond)
  · exact head.not_covers_rest (Nat.le_of_lt yUpper) pending member both.2

/-- A span of fewer than two items is taken off: no two items are of it, so nothing that was known
to be in order is lost. -/
theorem pop (head : Head order span items popped (top :: rest) now tally)
    (few : ¬ 2 ≤ top.span.size) : Head order span items (popped + 1) rest now tally where
  within pending member := head.within pending (List.mem_cons_of_mem _ member)
  apart := head.apart.of_cons
  ordered x y first last before lower upper separate := by
    refine head.ordered x y first last before lower upper ?_
    refine List.forall_mem_cons.mpr ⟨?_, separate⟩
    rintro ⟨⟨xLower, _⟩, _, yUpper⟩
    unfold Span.size at few
    omega
  exchanged := head.exchanged
  deepening := head.deepening.2
  shallow pending member := head.shallow pending (List.mem_cons_of_mem _ member)
  balanced := by
    have balanced := head.balanced
    rw [List.length_cons] at balanced
    omega

theorem held_top (head : Head order span items popped (top :: rest) now tally)
    (held : Holds among span.start span.stop items) :
    Holds among top.span.start top.span.stop now :=
  have ⟨lower, upper⟩ := head.within top List.mem_cons_self
  (head.exchanged.holds (Nat.le_refl _) (Nat.le_refl _) held).narrow lower upper

/-- After the top span was partitioned two items are in order, unless both are of one of its parts
or of one span below it.

Proof: by where the two items lie. Outside the top span nothing moved; of one item inside and one
outside, the outer one bounds the whole span; and of two inside, the pivot is between them. -/
theorem ordered_split (ranks : order.Ranks among) (held : Holds among span.start span.stop items)
    (head : Head order span items popped (top :: rest) now tally)
    {some : top.span.start < top.span.stop} {earlier : Tally} {pivot : top.span.Position}
    (partition : Partition.run order top.span some now earlier = .done after counted pivot)
    (x y : Nat) (first : x < n) (last : y < n) (before : x < y) (lower : span.start ≤ x)
    (upper : y < span.stop) (separate : ∀ pending ∈ top.split pivot rest,
      ¬ (pending.span.Covers x ∧ pending.span.Covers y)) :
    order.le after[x] after[y] = .ok true := by
  have kept : Exchanged top.span.start top.span.stop now after :=
    Outcome.items_of_done partition (Partition.run_exchanged ..)
  obtain ⟨notBefore, notAfter, notBelow⟩ :
      ¬ ((top.span.before pivot).Covers x ∧ (top.span.before pivot).Covers y) ∧
        ¬ ((top.span.after pivot).Covers x ∧ (top.span.after pivot).Covers y) ∧
          ∀ pending ∈ rest, ¬ (pending.span.Covers x ∧ pending.span.Covers y) := by
    simpa [split] using separate
  by_cases xCovered : top.span.Covers x
  · obtain ⟨xLower, xUpper⟩ := xCovered
    by_cases yUpper : y < top.span.stop
    · have heldTop := head.held_top held
      refine Partition.run_ordered ranks heldTop partition before last xLower yUpper ?_
      constructor
      · by_contra xAfter
        exact notAfter ⟨⟨by simp only [Span.after]; omega, xUpper⟩,
          ⟨by simp only [Span.after]; omega, yUpper⟩⟩
      · by_contra yBefore
        exact notBefore ⟨⟨xLower, by simp only [Span.before]; omega⟩,
          ⟨by simp only [Span.before]; omega, by simp only [Span.before]; omega⟩⟩
    · have beyond := Nat.le_of_not_lt yUpper
      rw [kept.outside last (Or.inr beyond)]
      exact kept.holds (Nat.le_refl _) (Nat.le_refl _) (head.top_le last beyond upper) x first
        xLower xUpper
  · by_cases yCovered : top.span.Covers y
    · obtain ⟨yLower, yUpper⟩ := yCovered
      have beyond : x < top.span.start := by
        by_contra xLower
        exact xCovered ⟨Nat.le_of_not_lt xLower, Nat.lt_trans before yUpper⟩
      rw [kept.outside first (Or.inl beyond)]
      exact kept.holds (Nat.le_refl _) (Nat.le_refl _) (head.le_top first lower beyond) y last
        yLower yUpper
    · have outside {k : Nat} (uncovered : ¬ top.span.Covers k) :
          k < top.span.start ∨ top.span.stop ≤ k := by
        unfold Span.Covers at uncovered
        omega
      rw [kept.outside first (outside xCovered), kept.outside last (outside yCovered)]
      refine head.ordered x y first last before lower upper ?_
      exact List.forall_mem_cons.mpr ⟨fun both => xCovered both.1, notBelow⟩

/-- Any other span is partitioned, and its parts take its place. The order, the levels of the stack
and the figures of the tally are carried over to the next head. -/
theorem split (ranks : order.Ranks among) (held : Holds among span.start span.stop items)
    (head : Head order span items popped (top :: rest) now tally)
    (several : 2 ≤ top.span.size) {pivot : top.span.Position}
    (partition : Partition.run order top.span (top.span.start_lt_stop several) now
      (tally.reached top.depth) = .done after counted pivot) :
    Head order span items (popped + 1) (top.split pivot rest) after counted := by
  have lower := pivot.lower
  have upper := pivot.upper
  have ⟨spanLower, spanUpper⟩ := head.within top List.mem_cons_self
  have kept : Exchanged top.span.start top.span.stop now after :=
    Outcome.items_of_done partition (Partition.run_exchanged ..)
  have work := Partition.run_counts several partition
  have levels : counted.maxDepth = max tally.maxDepth top.depth := by
    simp [work, Tally.merge, Tally.reached]
  have partitions : counted.partitions = tally.partitions + 1 := by
    simp [work, Tally.merge, Tally.reached]
  constructor
  case within =>
    refine List.forall_mem_cons.mpr ⟨?_, List.forall_mem_cons.mpr ⟨?_, ?_⟩⟩
    · exact ⟨spanLower, by simp only [Span.before]; omega⟩
    · exact ⟨by simp only [Span.after]; omega, spanUpper⟩
    · exact fun pending member => head.within pending (List.mem_cons_of_mem _ member)
  case apart =>
    have below := head.below_top
    refine List.pairwise_cons.mpr ⟨?_, List.pairwise_cons.mpr ⟨?_, head.apart.of_cons⟩⟩
    · refine List.forall_mem_cons.mpr ⟨Nat.lt_succ_self _, fun pending member => ?_⟩
      exact Nat.lt_trans upper (below pending member)
    · exact below
  case ordered => exact head.ordered_split ranks held partition
  case exchanged => exact head.exchanged.trans (kept.widen spanLower spanUpper)
  case deepening =>
    have grown := head.deepening.1
    exact ⟨by simp only [List.length_cons]; omega, by simp only; omega, head.deepening.2⟩
  case shallow =>
    rw [levels]
    refine List.forall_mem_cons.mpr ⟨?_, List.forall_mem_cons.mpr ⟨?_, ?_⟩⟩
    · simp only; omega
    · simp only; omega
    · intro pending member
      have earlier := head.shallow pending (List.mem_cons_of_mem _ member)
      omega
  case balanced =>
    have balanced := head.balanced
    simp only [Pending.split, List.length_cons] at balanced ⊢
    omega

/-- From a head with a span pending a turn, which ends well, leads to another head. It exchanges
positions of the top span, and what is pending afterwards was pending before; so a position that is
settled stays so. -/
theorem exists_turn (ranks : order.Ranks among) (held : Holds among span.start span.stop items)
    (head : Head order span items popped (top :: rest) now tally) :
    ∃ after counted left, turn order top rest now tally = .done after counted left ∧
      Head order span items (popped + 1) left.val after counted ∧
      Exchanged top.span.start top.span.stop now after ∧
      ∀ k, (∃ pending ∈ left.val, pending.span.Covers k) →
        ∃ pending ∈ top :: rest, pending.span.Covers k := by
  by_cases several : 2 ≤ top.span.size
  · have last := top.span.last_lt several
    have some := top.span.start_lt_stop several
    have heldTop := head.held_top held
    obtain ⟨parted, counted, pivot, partition⟩ :=
      (Partition.run_done_iff order top.span some last now (tally.reached top.depth)).mpr
        fun k inside lower upper => ranks.answers _ _
          (heldTop k inside lower (by omega)) (heldTop _ last (by omega) (by omega))
    refine ⟨parted, counted, _, turn_several several partition,
      head.split ranks held several partition,
      Outcome.items_of_done partition (Partition.run_exchanged ..), ?_⟩
    have lower := pivot.lower
    have upper := pivot.upper
    rintro k ⟨pending, member, covered⟩
    obtain rfl | rfl | below : pending = ⟨top.span.before pivot, top.depth + 1⟩ ∨
        pending = ⟨top.span.after pivot, top.depth + 1⟩ ∨ pending ∈ rest := by
      simpa [Pending.split] using member
    · exact ⟨top, List.mem_cons_self, covered.1, Nat.lt_trans covered.2 upper⟩
    · exact ⟨top, List.mem_cons_self, Nat.le_trans (Nat.le_succ_of_le lower) covered.1, covered.2⟩
    · exact ⟨pending, List.mem_cons_of_mem _ below, covered⟩
  · refine ⟨now, tally, _, turn_few order top rest now tally several, head.pop several,
      .nothing now, ?_⟩
    rintro k ⟨pending, member, covered⟩
    exact ⟨pending, List.mem_cons_of_mem _ member, covered⟩

/-- The stack is not higher than one more than the deepest level. The loop therefore needs no more
room than the recursion that it replaces. -/
theorem length_le (head : Head order span items popped stack now tally) :
    stack.length ≤ tally.maxDepth + 1 :=
  head.deepening.length_le head.shallow

/-- To the left of a pending span that has nothing pending above it the items ascend, and no span
covers any of them. They stand where they will stand at the end. -/
theorem left_of_top {above : List (Pending n)}
    (head : Head order span items popped (above ++ top :: rest) now tally)
    (empty : ∀ pending ∈ above, pending.span.size = 0) :
    Ascending order span.start top.span.start now ∧
      ∀ k < top.span.start, ¬ ∃ pending ∈ above ++ top :: rest, pending.span.Covers k := by
  have uncovered : ∀ k < top.span.start,
      ∀ pending ∈ above ++ top :: rest, ¬ pending.span.Covers k := by
    intro k before pending member ⟨lower, upper⟩
    obtain passed | rfl | below : pending ∈ above ∨ pending = top ∨ pending ∈ rest := by
      simpa using member
    · have nothing := empty pending passed
      unfold Span.size at nothing
      omega
    · omega
    · have apart := (List.pairwise_cons.mp (List.pairwise_append.mp head.apart).2.1).1 pending below
      have ordered := top.span.ordered
      omega
  constructor
  · intro x y before inside lower upper
    have last := (head.within top (by simp)).2
    have ordered := top.span.ordered
    exact head.ordered x y (by omega) inside before lower (by omega) fun pending member both =>
      uncovered y upper pending member both.2
  · rintro k before ⟨pending, member, covered⟩
    exact uncovered k before pending member covered

end Head

/-- At every head of the loop the stack, the items and the tally are tied together.

Proof: by induction on the turns. The first head is one by definition, and each turn takes a head to
a head. -/
theorem Reaches.head (ranks : order.Ranks among) (held : Holds among span.start span.stop items)
    (reached : Reaches order span items popped stack now tally) :
    Head order span items popped stack now tally := by
  induction reached with
  | start => exact .first order span items
  | next _ turned inductionHypothesis =>
    obtain ⟨after, counted, left, same, head, _⟩ := inductionHypothesis.exists_turn ranks held
    rw [turned] at same
    cases same
    exact head

/-- From every head the loop comes to its end, and a position that is not pending keeps what it
holds until then. The weight of the stack is lowered by every turn, so there is an end. -/
theorem Reaches.ends (ranks : order.Ranks among) (held : Holds among span.start span.stop items)
    {popped : Nat} {stack : List (Pending n)} {now : Vector α n} {tally : Tally}
    (reached : Reaches order span items popped stack now tally) :
    ∃ turns after counted, Reaches order span items turns [] after counted ∧
      ∀ k (_ : k < n), (¬ ∃ pending ∈ stack, pending.span.Covers k) → after[k] = now[k] := by
  match stack with
  | [] => exact ⟨popped, now, tally, reached, fun _ _ _ => rfl⟩
  | top :: rest =>
    obtain ⟨between, counted, left, turned, _, kept, narrowed⟩ :=
      (reached.head ranks held).exists_turn ranks held
    obtain ⟨turns, after, final, finished, same⟩ := (reached.next turned).ends ranks held
    refine ⟨turns, after, final, finished, fun k inside settled => ?_⟩
    rw [same k inside fun pending => settled (narrowed k pending)]
    refine kept.outside inside ?_
    by_contra covered
    exact settled ⟨top, List.mem_cons_self, by omega, by omega⟩
termination_by weight stack
decreasing_by exact left.property

/-- What the loop over a stack does with a span whose items a total preorder compares: at every head
and at the end. -/
structure Loops (order : Comparison α ε) (span : Span n) (items after : Vector α n)
    (counted : Tally) : Prop where
  /-- At each of its heads the stack, the items and the tally are tied together. -/
  head {popped : Nat} {stack : List (Pending n)} {now : Vector α n} {tally : Tally} :
    Reaches order span items popped stack now tally →
      Head order span items popped stack now tally
  /-- The stack is never higher than one more than the deepest level. -/
  height {popped : Nat} {stack : List (Pending n)} {now : Vector α n} {tally : Tally} :
    Reaches order span items popped stack now tally → stack.length ≤ tally.maxDepth + 1
  /-- To the left of the top span, whether or not spans without any item above it are passed over,
  the items ascend and are those of the end. -/
  settled {popped : Nat} {above rest : List (Pending n)} {top : Pending n} {now : Vector α n}
    {tally : Tally} :
    Reaches order span items popped (above ++ top :: rest) now tally →
      (∀ pending ∈ above, pending.span.size = 0) →
        Ascending order span.start top.span.start now ∧
          ∀ k (_ : k < n), k < top.span.start → after[k] = now[k]
  /-- The loop comes to its end. -/
  ends : ∃ popped, Reaches order span items popped [] after counted
  /-- There the items are sorted, and for each partition two spans were taken off the stack, and the
  whole span. -/
  ended {popped : Nat} {now : Vector α n} {tally : Tally} :
    Reaches order span items popped [] now tally →
      now = after ∧ tally = counted ∧ popped = 2 * counted.partitions + 1 ∧
        Ascending order span.start span.stop after

theorem Reaches.sort_eq (reached : Reaches order span items popped [] now tally) :
    sort order span items {} = .done now tally () := by
  rw [← reached.drain_eq, drain_nil]

/-- The sort over a stack of items that a total preorder compares ends well, by such a loop. All of
its parts are read off the invariant, at a head in between or at the last one. -/
theorem sort_loops (ranks : order.Ranks among) (held : Holds among span.start span.stop items) :
    ∃ after counted, sort order span items {} = .done after counted () ∧
      Loops order span items after counted := by
  obtain ⟨turns, after, counted, final, _⟩ := Reaches.start.ends ranks held
  have unique {popped : Nat} {now : Vector α n} {tally : Tally}
      (reached : Reaches order span items popped [] now tally) : now = after ∧ tally = counted := by
    have same := reached.sort_eq.symm.trans final.sort_eq
    cases same
    exact ⟨rfl, rfl⟩
  refine ⟨after, counted, final.sort_eq, ?_⟩
  constructor
  case head => exact fun reached => reached.head ranks held
  case height => exact fun reached => (reached.head ranks held).length_le
  case settled =>
    intro popped above rest top now tally reached empty
    obtain ⟨ascending, uncovered⟩ := (reached.head ranks held).left_of_top empty
    obtain ⟨_, last, _, finished, same⟩ := reached.ends ranks held
    obtain ⟨rfl, _⟩ := unique finished
    exact ⟨ascending, fun k inside before => same k inside (uncovered k before)⟩
  case ends => exact ⟨turns, final⟩
  case ended =>
    intro popped now tally reached
    have head := reached.head ranks held
    obtain ⟨rfl, rfl⟩ := unique reached
    refine ⟨rfl, rfl, head.balanced, fun x y before inside lower upper => ?_⟩
    exact head.ordered x y (Nat.lt_trans before inside) inside before lower upper fun _ member =>
      absurd member List.not_mem_nil

end

end Pending

end SortBench.Sorting
