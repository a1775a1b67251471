import SortBench.Proofs.Sorting.CallTree
import SortBench.Proofs.Sorting.Scripts

/-!
# The sorts as scripts

The sorts once more, as scripts that address their array by integers. Nothing in a script keeps an
integer inside the range: the place for the next kept item starts one before the low end, the range
in front of a pivot ends one before it and the range behind starts one after it, and what is pushed
on the stack is not looked at. All the same every script reads and writes positions of its range
only, however the comparisons answer, and whatever number of passes, levels or turns it is allowed.
One lemma for each loop says so, by an induction over what it is still to do.

On an array that has these positions the scripts do what the sorts over spans do, which carry the
proof of their positions with them.
-/

namespace SortBench.Sorting

variable {α ε : Type} {n : Nat}

/-- An error by which the comparisons refuse some pair. A script fails with such an error where it
is its own comparison that was refused, and a caller can tell it from an address of nothing. -/
def Comparison.Refuses (order : Comparison α ε) (error : ε) : Prop :=
  ∃ a b, order.le a b = .error error ∨ order.gt a b = .error error

/-- A span has several positions exactly if its last one is not its first one. The checks of the
integer algorithms read the right side, those of the algorithms on spans the left side. -/
theorem Span.several_iff (span : Span n) {low high : Int} (first : low = span.start)
    (final : high + 1 = span.stop) : 2 ≤ span.size ↔ low < high := by
  unfold size
  omega

namespace Addressed

open Script

/-- Compare so many items from position `j` on with the pivot, the last kept item being at `i`, and
answer where the last kept item is then. Before anything is kept, `i` is one below the range; no
item is ever addressed there. -/
def scan (order : Comparison α ε) (pivot : α) : (remaining : Nat) → (i j : Int) → Script α ε Int
  | 0, i, _ => .done i
  | remaining + 1, i, j =>
    .count Tally.compared <| .read j fun item => ask (order.le item pivot) fun
      | true =>
        exchange (i + 1) j <| .count Tally.swapped <| scan order pivot remaining (i + 1) (j + 1)
      | false => scan order pivot remaining i (j + 1)

/-- Partition the range from `low` to `high` around its last item, and answer where that comes to
stand. The range is not checked. -/
def partition (order : Comparison α ε) (low high : Int) : Script α ε Int :=
  .read high fun pivot =>
    (scan order pivot (high - low).toNat (low - 1) low).bind fun i =>
      exchange (i + 1) high <| .count Tally.swapped <| .count Tally.partitioned <| .done (i + 1)

/-- Sort the range from `low` to `high` by recursion, with room for so many levels. The two sides of
a pivot at `p` end at `p - 1` and begin at `p + 1`, which may lie outside the range. -/
def quick (order : Comparison α ε) (exhausted : ε) :
    (room depth : Nat) → (low high : Int) → Script α ε Unit
  | 0, _, low, high => if low < high then .failed exhausted else .done ()
  | room + 1, depth, low, high =>
    if low < high then
      .count (·.reached depth) <| (partition order low high).bind fun pivot =>
        (quick order exhausted room (depth + 1) low (pivot - 1)).bind fun _ =>
          quick order exhausted room (depth + 1) (pivot + 1) high
    else .done ()

/-- Work off a stack of ranges with their levels in so many turns. A turn takes one range from the
stack and puts at most two on it. -/
def drain (order : Comparison α ε) (exhausted : ε) :
    (turns : Nat) → List (Int × Int × Nat) → Script α ε Unit
  | _, [] => .done ()
  | 0, _ :: _ => .failed exhausted
  | turns + 1, (low, high, depth) :: rest =>
    if low < high then
      .count (·.reached depth) <| (partition order low high).bind fun pivot =>
        drain order exhausted turns
          ((low, pivot - 1, depth + 1) :: (pivot + 1, high, depth + 1) :: rest)
    else drain order exhausted turns rest

/-- Go over so many adjacent pairs from position `i` on, and answer whether any was exchanged, now
or before. Each turn addresses the next two positions without a check. -/
def sweep (order : Comparison α ε) :
    (pairs : Nat) → (i : Int) → (exchanged : Bool) → Script α ε Bool
  | 0, _, exchanged => .done exchanged
  | pairs + 1, i, exchanged =>
    .count Tally.compared <| .read i fun first => .read (i + 1) fun second =>
      ask (order.gt first second) fun
        | true => exchange i (i + 1) <| .count Tally.swapped <| sweep order pairs (i + 1) true
        | false => sweep order pairs (i + 1) exchanged

/-- Make passes over so many adjacent pairs until one exchanges nothing, but at most so many. -/
def passes (order : Comparison α ε) (pairs : Nat) : (limit : Nat) → Script α ε Unit
  | 0 => .done ()
  | limit + 1 =>
    (sweep order pairs 0 false).bind fun exchanged =>
      .count Tally.passed <| if exchanged then passes order pairs limit else .done ()

/-- Sort the first `size` items in at most so many passes. Fewer than two items are left alone, so
that a `size` of zero addresses nothing. -/
def bubble (order : Comparison α ε) (size : Int) (limit : Nat) : Script α ε Unit :=
  if size ≤ 1 then .done () else passes order (size - 1).toNat limit

section Keeps

variable (order : Comparison α ε) {low high stop : Int}

/-- The scan keeps to the items that it compares and to the places of those that it keeps, whatever
the comparisons answer. The last kept item is always behind the next one to be compared, so that no
address lies beyond the end, and `i + 1` is never below the range. -/
theorem scan_keeps (pivot : α) (remaining : Nat) (i j : Int) (lower : low ≤ i + 1)
    (behind : i < j) (bound : j + remaining = stop) :
    (scan order pivot remaining i j).Keeps (fun p => low ≤ p ∧ p < stop) order.Refuses
      fun i => low ≤ i + 1 ∧ i < stop := by
  induction remaining generalizing i j with
  | zero => exact ⟨lower, by omega⟩
  | succ remaining inductionHypothesis =>
    refine ⟨by omega, fun item => .ask (fun error refused => ⟨item, pivot, Or.inl refused⟩) ?_⟩
    intro notGreater
    cases notGreater with
    | true =>
      exact .exchange (by omega) (by omega)
        (inductionHypothesis (i + 1) (j + 1) (by omega) (by omega) (by omega))
    | false => exact inductionHypothesis i (j + 1) lower (by omega) (by omega)

/-- A partition keeps to its range, and answers a position of it. A range with at least one position
is all that it takes: the pivot is the last one, and the scan begins at the first. -/
theorem partition_keeps (some : low ≤ high) :
    (partition order low high).Keeps (fun p => low ≤ p ∧ p ≤ high) order.Refuses
      fun p => low ≤ p ∧ p ≤ high := by
  refine ⟨⟨some, Int.le_refl high⟩, fun pivot => ?_⟩
  have scanned : (scan order pivot (high - low).toNat (low - 1) low).Keeps
      (fun p => low ≤ p ∧ p < high) order.Refuses fun i => low ≤ i + 1 ∧ i < high :=
    scan_keeps order pivot _ _ _ (by omega) (by omega) (by omega)
  refine (scanned.mono (fun p inside => ⟨inside.1, by omega⟩) (fun _ refused => refused)
    fun i kept => kept).bind ?_
  intro i kept
  exact .exchange ⟨kept.1, by omega⟩ ⟨some, Int.le_refl high⟩ ⟨kept.1, by omega⟩

variable (exhausted : ε) {lowest highest : Int}

/-- A partition of a part of a range keeps to the range. In this form the lemma serves every level
of a sort, whose first range is given once and for all. -/
theorem partition_keeps_within (several : low < high) (within : lowest ≤ low ∧ high ≤ highest) :
    (partition order low high).Keeps (fun p => lowest ≤ p ∧ p ≤ highest)
      (fun error => error = exhausted ∨ order.Refuses error) fun p => low ≤ p ∧ p ≤ high :=
  (partition_keeps order (Int.le_of_lt several)).mono
    (fun _ inside => ⟨Int.le_trans within.1 inside.1, Int.le_trans inside.2 within.2⟩)
    (fun _ refused => Or.inr refused) fun _ inside => inside

/-- The recursion keeps to the range that it starts with, on every level. Where there is nothing to
sort, it does not matter where the range lies; this is what happens on the empty side of a pivot at
an end.

Proof: by induction on the room. A partition answers a position of its range, so both sides lie in
the range again. -/
theorem quick_keeps (room depth : Nat) (low high : Int)
    (within : low < high → lowest ≤ low ∧ high ≤ highest) :
    (quick order exhausted room depth low high).Keeps (fun p => lowest ≤ p ∧ p ≤ highest)
      (fun error => error = exhausted ∨ order.Refuses error) fun _ => True := by
  induction room generalizing depth low high with
  | zero =>
    rw [quick]
    split
    · exact Or.inl rfl
    · trivial
  | succ room inductionHypothesis =>
    rw [quick]
    split
    case isTrue several =>
      refine (partition_keeps_within order exhausted several (within several)).bind ?_
      intro pivot inside
      refine (inductionHypothesis (depth + 1) low (pivot - 1) (by omega)).bind ?_
      intro _ _
      exact inductionHypothesis (depth + 1) (pivot + 1) high (by omega)
    case isFalse few => trivial

/-- So does the loop over a stack. The invariant is that every range on the stack with anything to
sort lies in the first one, so no range is ever wider than that. -/
theorem drain_keeps (turns : Nat) (stack : List (Int × Int × Nat))
    (within : ∀ entry ∈ stack, entry.1 < entry.2.1 →
      lowest ≤ entry.1 ∧ entry.2.1 ≤ highest) :
    (drain order exhausted turns stack).Keeps (fun p => lowest ≤ p ∧ p ≤ highest)
      (fun error => error = exhausted ∨ order.Refuses error) fun _ => True := by
  induction turns generalizing stack with
  | zero =>
    cases stack with
    | nil => trivial
    | cons top rest => exact Or.inl rfl
  | succ turns inductionHypothesis =>
    cases stack with
    | nil => trivial
    | cons top rest =>
      obtain ⟨low, high, depth⟩ := top
      obtain ⟨first, others⟩ := List.forall_mem_cons.mp within
      simp only at first
      rw [drain]
      split
      case isTrue several =>
        refine (partition_keeps_within order exhausted several (first several)).bind ?_
        intro pivot inside
        apply inductionHypothesis
        rw [List.forall_mem_cons, List.forall_mem_cons]
        exact ⟨by simp only; omega, by simp only; omega, others⟩
      case isFalse few => exact inductionHypothesis rest others

/-- A pass keeps to the positions of its pairs. The last pair ends where the pass does, one position
before the bound. -/
theorem sweep_keeps (pairs : Nat) (i : Int) (exchanged : Bool) (lower : 0 ≤ i)
    (bound : i + pairs < stop) :
    (sweep order pairs i exchanged).Keeps (fun p => 0 ≤ p ∧ p < stop) order.Refuses
      fun _ => True := by
  induction pairs generalizing i exchanged with
  | zero => trivial
  | succ pairs inductionHypothesis =>
    refine ⟨by omega, fun first => ⟨by omega, fun second =>
      .ask (fun error refused => ⟨first, second, Or.inr refused⟩) ?_⟩⟩
    intro greater
    cases greater with
    | true =>
      exact .exchange (by omega) (by omega)
        (inductionHypothesis (i + 1) true (by omega) (by omega))
    | false => exact inductionHypothesis (i + 1) exchanged (by omega) (by omega)

/-- The bubble sort keeps to its items, however many passes it makes and whatever the comparisons
answer. There are only passes over several items, so no pair has a position before the first. -/
theorem bubble_keeps (size : Int) (limit : Nat) :
    (bubble order size limit).Keeps (fun p => 0 ≤ p ∧ p < size) order.Refuses
      fun _ => True := by
  rw [bubble]
  split
  case isTrue few => trivial
  case isFalse several =>
    induction limit with
    | zero => trivial
    | succ limit inductionHypothesis =>
      refine (sweep_keeps order _ 0 false (Int.le_refl 0) (by omega)).bind ?_
      intro exchanged _
      cases exchanged with
      | true => exact inductionHypothesis
      | false => trivial

end Keeps

section Run

variable (order : Comparison α ε) (lost exhausted : ε)

/-- The scan by integers is the scan of a span, step by step, with the same items, the same work
counted and the same refusal. Only the position that is answered is shifted by one, as the integers
count the last kept item and the span counts the next place. -/
theorem run_scan (span : Span n) (pivot : α) (remaining store j : Nat) (lower : span.start ≤ store)
    (behind : store ≤ j) (upper : j + remaining < span.stop) (items : Vector α n) (tally : Tally) :
    (scan order pivot remaining (store - 1) j).run lost items tally =
      (Partition.scan order span pivot remaining store j lower behind upper items tally).andThen
        fun items tally position => .done items tally (position.index - 1 : Int) := by
  induction remaining generalizing store j items tally with
  | zero => rfl
  | succ remaining inductionHypothesis =>
    have inside : j < n := Nat.lt_of_lt_of_le (by omega) span.inside
    rw [scan, run, run_read lost items _ rfl inside]
    cases answer : order.le items[j] pivot with
    | error error =>
      rw [Partition.scan_refused order span pivot lower behind upper inside items tally answer]
      rfl
    | ok notGreater =>
      cases notGreater with
      | true =>
        rw [Partition.scan_notGreater order span pivot lower behind upper inside items tally answer,
          ask, run_exchange lost items _ (Int.sub_add_cancel ..) rfl (by omega) inside, run]
        have next := inductionHypothesis (store + 1) (j + 1) (by omega) (by omega) (by omega)
          (items.swap store j) tally.compared.swapped
        simpa using next
      | false =>
        rw [Partition.scan_greater order span pivot lower behind upper inside items tally answer]
        exact inductionHypothesis store (j + 1) lower (by omega) (by omega) items tally.compared

variable {low high : Int}

/-- The partition by integers is the partition of a span. So what is proved of spans, which carry
the proofs of their bounds, is true of an algorithm that has no such proofs. -/
theorem run_partition (span : Span n) (some : span.start < span.stop) (first : low = span.start)
    (final : high + 1 = span.stop) (items : Vector α n) (tally : Tally) :
    (partition order low high).run lost items tally =
      (Partition.run order span some items tally).andThen fun items tally position =>
        .done items tally (position.index : Int) := by
  have inside := span.inside
  have last : high = (span.stop - 1 : Nat) := by omega
  have remaining : (high - low).toNat = span.stop - 1 - span.start := by omega
  rw [partition, run_read lost items tally last (by omega), run_bind, remaining, first,
    run_scan order lost span _ _ span.start span.start (Nat.le_refl _) (Nat.le_refl _) (by omega),
    Partition.run, Outcome.andThen_andThen, Outcome.andThen_andThen]
  congr 1
  funext items tally position
  have upper := position.upper
  rw [Outcome.andThen_done, Outcome.andThen_done,
    run_exchange lost items tally (Int.sub_add_cancel ..) last (by omega) (by omega),
    Int.sub_add_cancel]
  rfl

/-- The recursion by integers is the recursion on spans, for every room and from every tally. Also
where it gives up: both run out of room at the same call. -/
theorem run_quick (room depth : Nat) (span : Span n) (first : low = span.start)
    (final : high + 1 = span.stop) (items : Vector α n) (tally : Tally) :
    (quick order exhausted room depth low high).run lost items tally =
      Quick.sort order exhausted room depth span items tally := by
  induction room generalizing depth low high span items tally with
  | zero =>
    rw [quick]
    by_cases several : 2 ≤ span.size
    · rw [if_pos ((span.several_iff first final).mp several),
        Quick.sort_without_room _ _ _ _ _ _ several]
      rfl
    · rw [if_neg (mt (span.several_iff first final).mpr several),
        Quick.sort_trivial _ _ _ _ _ _ _ several]
      rfl
  | succ room inductionHypothesis =>
    rw [quick]
    by_cases several : 2 ≤ span.size
    · rw [if_pos ((span.several_iff first final).mp several),
        Quick.sort_several _ _ _ _ _ _ _ several, run, run_bind,
        run_partition order lost span (span.start_lt_stop several) first final,
        Outcome.andThen_andThen]
      congr 1
      funext items tally pivot
      have inFront := inductionHypothesis (depth + 1) (span.before pivot) first
        (Int.sub_add_cancel (pivot.index : Int) 1) items tally
      rw [Outcome.andThen_done, run_bind, inFront]
      congr 1
      funext items tally _
      exact inductionHypothesis _ (span.after pivot) rfl final items tally
    · rw [if_neg (mt (span.several_iff first final).mpr several),
        Quick.sort_trivial _ _ _ _ _ _ _ several]
      rfl

/-- A pending span as a range of integers with its level. -/
def entry (pending : Pending n) : Int × Int × Nat :=
  (pending.span.start, pending.span.stop - 1, pending.depth)

/-- The loop over a stack of ranges is the loop over a stack of spans, given turns enough. The turns
are bounded by the weight of the stack, which every turn lowers; so the bound on turns is never what
ends the loop. -/
theorem run_drain (turns : Nat) (stack : List (Pending n)) (enough : Pending.weight stack ≤ turns)
    (items : Vector α n) (tally : Tally) :
    (drain order exhausted turns (stack.map entry)).run lost items tally =
      Pending.drain order stack items tally := by
  induction turns generalizing stack items tally with
  | zero =>
    cases stack with
    | nil =>
      rw [Pending.drain_nil]
      rfl
    | cons top rest => exact absurd (Pending.weight_rest_lt top rest) (by omega)
  | succ turns inductionHypothesis =>
    cases stack with
    | nil =>
      rw [Pending.drain_nil]
      rfl
    | cons top rest =>
      rw [List.map_cons, entry, drain]
      have final : (top.span.stop - 1 : Int) + 1 = top.span.stop := Int.sub_add_cancel ..
      by_cases several : 2 ≤ top.span.size
      · rw [if_pos ((top.span.several_iff rfl final).mp several),
          Pending.drain_several _ _ _ _ _ several, run, run_bind,
          run_partition order lost top.span (top.span.start_lt_stop several) rfl final,
          Outcome.andThen_andThen]
        congr 1
        funext items tally pivot
        have lighter := Pending.weight_split_lt top pivot rest
        exact inductionHypothesis (top.split pivot rest) (by omega) items tally
      · have lighter := Pending.weight_rest_lt top rest
        rw [if_neg (mt (top.span.several_iff rfl final).mpr several),
          Pending.drain_trivial _ _ _ _ _ several]
        exact inductionHypothesis rest (by omega) items tally

/-- A pass by integers is a pass over adjacent pairs, with the same exchanges and the same answer
about them. -/
theorem run_sweep (pairs i : Nat) (inside : i + pairs < n) (items : Vector α n) (tally : Tally)
    (exchanged : Bool) :
    (sweep order pairs i exchanged).run lost items tally =
      Bubble.sweep order pairs i inside items tally exchanged := by
  induction pairs generalizing i items tally exchanged with
  | zero => rfl
  | succ pairs inductionHypothesis =>
    have first : i < n := by omega
    have second : i + 1 < n := by omega
    have place : (i + 1 : Int) = (i + 1 : Nat) := rfl
    rw [sweep, run, run_read lost items _ rfl first, run_read lost items _ place second]
    cases answer : order.gt items[i] items[i + 1] with
    | error error =>
      rw [Bubble.sweep_refused order inside items tally exchanged answer]
      rfl
    | ok greater =>
      cases greater with
      | true =>
        rw [Bubble.sweep_greater order inside items tally exchanged answer, ask,
          run_exchange lost items _ rfl place first second, run]
        exact inductionHypothesis (i + 1) (by omega) _ _ true
      | false =>
        rw [Bubble.sweep_notGreater order inside items tally exchanged answer]
        exact inductionHypothesis (i + 1) (by omega) _ _ exchanged

/-- Passes by integers are passes, and they stop after the same one: the first that exchanges
nothing, or the last that is allowed. -/
theorem run_passes (pairs : Nat) (inside : pairs < n) (limit : Nat) (items : Vector α n)
    (tally : Tally) :
    (passes order pairs limit).run lost items tally =
      Bubble.passes order pairs inside limit items tally := by
  induction limit generalizing items tally with
  | zero => rfl
  | succ limit inductionHypothesis =>
    have swept := run_sweep order lost pairs 0 (Bubble.start_inside inside) items tally false
    rw [Int.natCast_zero] at swept
    rw [passes, run_bind, Bubble.passes_succ, swept]
    congr 1
    funext items tally exchanged
    cases exchanged with
    | true => exact inductionHypothesis items tally.passed
    | false => rfl

/-- The bubble sort by integers is the bubble sort. The number of passes allowed is the number of
items on both sides. -/
theorem run_bubble (size : Nat) (inside : size ≤ n) (items : Vector α n) (tally : Tally) :
    (bubble order size size).run lost items tally = Bubble.sort order size inside items tally := by
  rw [bubble, Bubble.sort]
  by_cases several : 2 ≤ size
  · have pairs : ((size : Int) - 1).toNat = size - 1 := by omega
    rw [if_neg (by omega), dif_pos several, pairs, run_passes]
  · rw [if_pos (by omega), dif_neg several]
    rfl

end Run

end Addressed

end SortBench.Sorting
