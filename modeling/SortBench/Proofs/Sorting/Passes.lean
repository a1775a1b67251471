import SortBench.Proofs.Sorting.Counting
import SortBench.Proofs.Sorting.Inversions
import SortBench.Proofs.Sorting.Listing

/-!
# The work of the bubble sort

A pass over the first items of an array is a pass over their list. Its exchanges are the entries of
the inversion table that are not zero, and it lowers these by one; so passes are made until the
highest entry is used up, and one more, which finds every pair in order. That they end is due to
this pass and not to the bound on their number: with any larger bound they end in the same way.
-/

namespace SortBench.Sorting

variable {α ε : Type} {n : Nat} {order : Comparison α ε} {among : α → Prop}

namespace Bubble

/-- The passes that a list takes: none for fewer than two items, otherwise one more than the highest
entry of the inversion table. The last pass only finds that there is nothing left to exchange. -/
def passesTaken (order : Comparison α ε) (items : List α) : Nat :=
  if items.length ≤ 1 then 0 else highest (inversionTable order items) + 1

/-- The work that the bubble sort takes on a list: in every pass a comparison of each item but the
last with the next one, and an exchange for each item and each greater one before it. Later passes
are not made shorter. -/
def work (order : Comparison α ε) (items : List α) : Tally :=
  { comparisons := passesTaken order items * (items.length - 1)
    swaps := (inversionTable order items).sum
    passes := passesTaken order items }

/-- The work of one pass over a list. -/
def passWork (order : Comparison α ε) (items : List α) : Tally :=
  { comparisons := items.length - 1
    swaps := passExchanges order items
    passes := 1 }

/-- Fewer than two items are ascending and take no work. This is the case in which the sort makes no
pass at all. -/
theorem work_of_few (order : Comparison α ε) {items : List α} (few : items.length ≤ 1) :
    work order items = {} ∧ items.Pairwise fun a b => order.le a b = .ok true := by
  match items, few with
  | [], _ => exact ⟨rfl, .nil⟩
  | [item], _ => exact ⟨rfl, List.pairwise_singleton _ _⟩

/-- A pass over the first items of an array is a pass over their list, with as many exchanges and
the flag raised if there are any. It starts anywhere, so the lemma can be proved by induction on
what is still to come. -/
theorem sweep_carried (tells : order.Tells among) {before rest after : List α} {held : α} {i : Nat}
    (inside : i + rest.length < n) (items : Vector α n) (tally : Tally) (exchanged : Bool)
    (shape : items.toList = before ++ held :: (rest ++ after)) (position : i = before.length)
    (members : ∀ item ∈ held :: rest, among item) :
    ∃ swept : Vector α n,
      sweep order rest.length i inside items tally exchanged =
          .done swept
            (tally.merge { comparisons := rest.length, swaps := exchanges order held rest })
            (exchanged || decide (0 < exchanges order held rest)) ∧
        swept.toList = before ++ (carried order held rest ++ after) := by
  induction rest generalizing i items tally exchanged before held with
  | nil =>
    refine ⟨items, ?_, shape⟩
    simp [sweep, exchanges, Outcome.done, Tally.merge]
  | cons next rest inductionHypothesis =>
    obtain ⟨heldMember, nextMember, restMembers⟩ :
        among held ∧ among next ∧ ∀ item ∈ rest, among item := by simpa using members
    have following : items.toList = (before ++ [held]) ++ next :: (rest ++ after) := by
      simp [shape]
    simp only [List.length_cons] at inside ⊢
    have answer : order.gt items[i] items[i + 1] = .ok (order.exceeds held next) := by
      rw [getElem_of_toList shape position, getElem_of_toList following (by simp [position])]
      exact tells.gt_eq_exceeds heldMember nextMember
    rw [exchanges, carried]
    cases compared : order.exceeds held next with
    | true =>
      rw [compared] at answer
      have swapped : (items.swap i (i + 1)).toList =
          (before ++ [next]) ++ held :: (rest ++ after) := by
        simpa using toList_swap_next shape position (by omega) (by omega)
      obtain ⟨swept, ended, list⟩ := inductionHypothesis (next_inside inside) _
        tally.compared.swapped true swapped (by simp [position])
        (List.forall_mem_cons.mpr ⟨heldMember, restMembers⟩)
      refine ⟨swept, ?_, by simpa using list⟩
      rw [sweep_greater order inside items tally exchanged answer, ended, Tally.swapped_merge,
        Tally.compared_merge]
      simp [Tally.compared, Tally.swapped]
    | false =>
      rw [compared] at answer
      obtain ⟨swept, ended, list⟩ := inductionHypothesis (next_inside inside) items tally.compared
        exchanged following (by simp [position])
        (List.forall_mem_cons.mpr ⟨nextMember, restMembers⟩)
      refine ⟨swept, ?_, by simpa using list⟩
      rw [sweep_notGreater order inside items tally exchanged answer, ended, Tally.compared_merge]
      simp [Tally.compared]

/-- One pass over the first items of an array is one over their list, and if it makes exchanges the
next pass follows. Whether it does can be read off the list before the pass. -/
theorem passes_pass (tells : order.Tells among) {pairs : Nat} (inside : pairs < n)
    (items : Vector α n) (tally : Tally) {front after : List α}
    (shape : items.toList = front ++ after) (length : front.length = pairs + 1)
    (members : ∀ item ∈ front, among item) :
    ∃ swept : Vector α n, swept.toList = pass order front ++ after ∧
      ∀ limit, passes order pairs inside (limit + 1) items tally =
        if 0 < passExchanges order front then
          passes order pairs inside limit swept (tally.merge (passWork order front))
        else .done swept (tally.merge (passWork order front)) () := by
  obtain ⟨first, rest, rfl⟩ := List.exists_cons_of_length_eq_add_one length
  obtain rfl : rest.length = pairs := by simpa using length
  obtain ⟨swept, ended, list⟩ := sweep_carried tells (start_inside inside) items tally false
    (show items.toList = [] ++ first :: (rest ++ after) from shape) rfl members
  refine ⟨swept, list, ?_⟩
  intro limit
  rw [passes_succ, ended, Outcome.andThen_done]
  simp only [Bool.false_or, decide_eq_true_eq]
  rfl

/-- Passes over the first items of an array, where the passes over their list are gauged: there is
one more than the level says, and together they make as many exchanges as there are in stock.

Proof: by induction on the level, and any bound on the number of passes above it is enough. A pass
at level zero makes no exchange and is the last. -/
theorem Gauges.passes_done {level stock : List α → Nat} (gauges : Gauges order among level stock)
    (tells : order.Tells among) {pairs : Nat} (inside : pairs < n) (items : Vector α n)
    (tally : Tally) {front after : List α} (shape : items.toList = front ++ after)
    (length : front.length = pairs + 1) (members : ∀ item ∈ front, among item) :
    ∃ sorted : Vector α n,
      sorted.toList = (pass order)^[level front + 1] front ++ after ∧
        ∀ limit, level front < limit →
          passes order pairs inside limit items tally = .done sorted
            (tally.merge
              { comparisons := (level front + 1) * pairs
                swaps := stock front
                passes := level front + 1 }) () := by
  generalize height : level front = count
  induction count generalizing items tally front with
  | zero =>
    obtain ⟨swept, list, passed⟩ := passes_pass tells inside items tally shape length members
    refine ⟨swept, list, ?_⟩
    intro limit enough
    obtain ⟨limit, rfl⟩ := Nat.exists_eq_add_one_of_ne_zero (Nat.ne_of_gt enough)
    have idle : passExchanges order front = 0 := by
      simpa [height] using gauges.exchanges_pos_iff members
    simp [passed, passWork, idle, length, gauges.stock_eq_zero height]
  | succ count inductionHypothesis =>
    obtain ⟨swept, list, passed⟩ := passes_pass tells inside items tally shape length members
    have perm := pass_perm order front
    have busy : 0 < passExchanges order front := (gauges.exchanges_pos_iff members).mpr (by omega)
    have lowered : level (pass order front) = count := by
      rw [gauges.level_pass members, height, Nat.add_sub_cancel]
    obtain ⟨sorted, sortedList, ended⟩ := inductionHypothesis swept
      (tally.merge (passWork order front)) list (perm.length_eq.trans length)
      (fun item member => members item (perm.mem_iff.mp member)) lowered
    refine ⟨sorted, sortedList, ?_⟩
    intro limit enough
    obtain ⟨limit, rfl⟩ := Nat.exists_eq_add_one_of_ne_zero (Nat.ne_zero_of_lt enough)
    rw [passed, if_pos busy, ended limit (by omega), Tally.merge_assoc, gauges.stock_pass members]
    congr 2
    simp only [passWork, Tally.merge, Tally.mk.injEq, length, Nat.add_sub_cancel]
    refine ⟨?_, trivial, ?_, trivial, rfl⟩
    · rw [Nat.add_one_mul (count + 1)]
      omega
    · omega

/-- The bubble sort of a part that a total preorder compares leaves it in its stable ascending
arrangement, leaves the rest as it is, and takes the work that the inversion table says. Nothing
about the outcome is left open, as there is only one such arrangement. -/
theorem sort_arranged (ranks : order.Ranks among) (size : Nat) (inside : size ≤ n)
    (items : Vector α n) (tally : Tally) (members : ∀ item ∈ items.toList.take size, among item) :
    ∃ sorted : Vector α n,
      sort order size inside items tally =
          .done sorted (tally.merge (work order (items.toList.take size))) () ∧
        StablyArranges order (items.toList.take size) (sorted.toList.take size) ∧
        sorted.toList.drop size = items.toList.drop size := by
  have length : (items.toList.take size).length = size := by simp [inside]
  unfold sort
  split
  case isTrue several =>
    obtain ⟨sorted, list, ended⟩ := (inversions_gauge ranks).passes_done ranks.tells
      (show size - 1 < n by omega) items tally (List.take_append_drop size items.toList).symm
      (by omega) members
    have arranges := stablyArranges_iterate ranks _ members (Nat.le_succ _)
    have arrangedLength := arranges.perm.length_eq.trans length
    refine ⟨sorted, ?_, ?_, ?_⟩
    · have bound := highest_overtaken_le order [] (items.toList.take size)
      rw [← inversionTable_eq, length] at bound
      rw [ended size (by simp at bound; omega)]
      simp [work, passesTaken, length, Nat.not_le.mpr several]
    · rw [list, List.take_left' arrangedLength]
      exact arranges
    · rw [list, List.drop_left' arrangedLength]
  case isFalse few =>
    have short : (items.toList.take size).length ≤ 1 := by omega
    obtain ⟨idle, ascending⟩ := work_of_few order short
    refine ⟨items, ?_, ⟨.refl order _, ascending⟩, rfl⟩
    rw [idle, Tally.merge_empty]

end Bubble

end SortBench.Sorting
