import SortBench.Proofs.Sorting.Counting
import SortBench.Proofs.Sorting.Listing

/-!
# What a partition makes of its range, to the letter

The scan goes along the items in front of the pivot. Those that it finds not greater it brings
forward past the others found so far; so they keep their order, while the others are passed over
and may lose theirs. At the end the pivot itself is brought forward past the others. This says of
every position of the range, of the answer and of the tally what they are afterwards.

The comparisons may answer whatever they like: no law of an order is used, only that each of them
is answered.
-/

namespace SortBench.Sorting

variable {α ε : Type} {n : Nat}

/-- Whether an item is found not greater than another. A refused comparison finds nothing, so the
answer is then no. -/
def Comparison.atMost (order : Comparison α ε) (bound item : α) : Bool :=
  match order.le item bound with
  | .ok notGreater => notGreater
  | .error _ => false

/-- A comparison that is answered tells whether the item is not greater. With this a scan can be
described by a count, without a case for refusals. -/
theorem Comparison.le_eq_atMost {order : Comparison α ε} {bound item : α}
    (answered : ∃ answer, order.le item bound = .ok answer) :
    order.le item bound = .ok (order.atMost bound item) := by
  obtain ⟨answer, compared⟩ := answered
  simp [atMost, compared]

/-- Items that stood in front of a pivot are divided by it: first those that were found not greater,
in the order in which they stood, then the pivot, then the others in some order. The first part is
stable and the last one is not, which is why a quicksort is not. -/
def Divided (order : Comparison α ε) (pivot : α) (front divided : List α) : Prop :=
  ∃ others, others.Perm (front.filter fun item => !order.atMost pivot item) ∧
    divided = front.filter (order.atMost pivot) ++ pivot :: others

/-- The row of all items, cut in front of a span and around its last item. The cuts are those of a
partition: what is before the range, its front, its pivot, and what is after it. -/
theorem Span.toList_eq_front (span : Span n) (some : span.start < span.stop) (items : Vector α n)
    (last : span.stop - 1 < n) :
    items.toList = items.toList.take span.start ++
      ((items.toList.take (span.stop - 1)).drop span.start ++
        items[span.stop - 1] :: items.toList.drop span.stop) := by
  have front : (items.toList.take (span.stop - 1)).take span.start =
      items.toList.take span.start := by
    rw [List.take_take, Nat.min_eq_left (Nat.le_sub_one_of_lt some)]
  have rest : items.toList.drop (span.stop - 1) =
      items[span.stop - 1] :: items.toList.drop span.stop := by
    rw [List.drop_eq_getElem_cons (by simpa using last), Vector.getElem_toList,
      Nat.sub_add_cancel (Nat.one_le_of_lt some)]
  rw [← List.append_assoc, ← rest, ← front, List.take_append_drop, List.take_append_drop]

namespace Partition

/-- The work of a partition: a comparison for each item in front of the pivot, an exchange for each
one that is found not greater, and one for the pivot. Exchanges of an item with itself are counted
too. -/
def work (order : Comparison α ε) (pivot : α) (front : List α) : Tally :=
  { comparisons := front.length
    swaps := front.countP (order.atMost pivot) + 1
    partitions := 1 }

/-- The scan of the items `rest`, after `passed` were found greater: those found not greater come
forward past the others and end up in front of them, in their order. What stands before and after is
not touched.

Proof: by induction on `rest`. An item that is kept is exchanged with the first of `passed`, which
thereby goes to the end of the others; this is where their order is lost. -/
theorem scan_divides (order : Comparison α ε) (span : Span n) (pivot : α)
    {before passed rest after : List α} {store j : Nat} (lower : span.start ≤ store)
    (behind : store ≤ j) (upper : j + rest.length < span.stop) (items : Vector α n) (tally : Tally)
    (shape : items.toList = before ++ (passed ++ (rest ++ after)))
    (storePlace : store = before.length) (jPlace : j = before.length + passed.length)
    (answered : ∀ item ∈ rest, ∃ answer, order.le item pivot = .ok answer) :
    ∃ (scanned : Vector α n) (others : List α) (position : span.Position),
      scan order span pivot rest.length store j lower behind upper items tally =
          .done scanned
            (tally.merge
              { comparisons := rest.length, swaps := rest.countP (order.atMost pivot) })
            position ∧
        position.index = store + rest.countP (order.atMost pivot) ∧
        others.Perm (passed ++ rest.filter fun item => !order.atMost pivot item) ∧
        scanned.toList = before ++ (rest.filter (order.atMost pivot) ++ (others ++ after)) := by
  induction rest generalizing before passed store j items tally with
  | nil =>
    refine ⟨items, passed, ⟨store, lower, Nat.lt_of_le_of_lt behind upper⟩, ?_, rfl, ?_, ?_⟩
    · simp [scan, Outcome.done, Tally.merge]
    · simp
    · simpa using shape
  | cons item rest inductionHypothesis =>
    obtain ⟨first, others⟩ := List.forall_mem_cons.mp answered
    have inside : j < n := Nat.lt_of_lt_of_le (Nat.lt_of_le_of_lt (Nat.le_add_right ..) upper)
      span.inside
    have reached : items.toList = (before ++ passed) ++ item :: (rest ++ after) := by
      simpa using shape
    have place : items[j] = item := getElem_of_toList reached (by simp [jPlace]) inside
    have compared : order.le items[j] pivot = .ok (order.atMost pivot item) := by
      rw [place]
      exact Comparison.le_eq_atMost first
    simp only [List.length_cons] at upper ⊢
    cases notGreater : order.atMost pivot item with
    | true =>
      rw [notGreater] at compared
      obtain ⟨turned, same, forward⟩ := toList_swap_forward (i := store) (j := j) shape storePlace
        jPlace (by omega) inside
      have swapped : (items.swap store j (by omega) inside).toList =
          (before ++ [item]) ++ (turned ++ (rest ++ after)) := by simpa using forward
      have storeNext : store + 1 = (before ++ [item]).length := by simp [storePlace]
      have jNext : j + 1 = (before ++ [item]).length + turned.length := by
        simp [jPlace, same.length_eq]
        omega
      obtain ⟨scanned, greater, position, ended, index, perm, list⟩ := inductionHypothesis
        (by omega) (by omega) (by omega) _ tally.compared.swapped swapped storeNext jNext others
      refine ⟨scanned, greater, position, ?_, ?_, ?_, ?_⟩
      · rw [scan_notGreater order span pivot lower behind upper inside items tally
          compared, ended, Tally.swapped_merge, Tally.compared_merge]
        simp [Tally.compared, Tally.swapped, notGreater]
      · simp [index, notGreater]
        omega
      · simpa [notGreater] using perm.trans (same.append_right _)
      · simpa [notGreater] using list
    | false =>
      rw [notGreater] at compared
      have kept : items.toList = before ++ ((passed ++ [item]) ++ (rest ++ after)) := by
        simpa using shape
      have jNext : j + 1 = before.length + (passed ++ [item]).length := by
        simp [jPlace]
        omega
      obtain ⟨scanned, greater, position, ended, index, perm, list⟩ := inductionHypothesis
        lower (by omega) (by omega) items tally.compared kept storePlace jNext others
      refine ⟨scanned, greater, position, ?_, ?_, ?_, ?_⟩
      · rw [scan_greater order span pivot lower behind upper inside items tally
          compared, ended, Tally.compared_merge]
        simp [Tally.compared, notGreater]
      · simp [index, notGreater]
      · simpa [notGreater] using perm
      · simpa [notGreater] using list

/-- A partition of a range divides the items in front of its last one by that one, answers where it
comes to stand, and leaves everything before and after the range as it was. It needs no order of the
items: the comparisons with the pivot have to be answered, and may contradict each other. -/
theorem run_divides (order : Comparison α ε) (span : Span n) (some : span.start < span.stop)
    (items : Vector α n) (tally : Tally) (before front after : List α) (pivot : α)
    (shape : items.toList = before ++ (front ++ pivot :: after))
    (start : span.start = before.length) (stop : span.stop = before.length + front.length + 1)
    (answered : ∀ item ∈ front, ∃ answer, order.le item pivot = .ok answer) :
    ∃ (result : Vector α n) (divided : List α) (position : span.Position),
      run order span some items tally =
          .done result (tally.merge (work order pivot front)) position ∧
        position.index = span.start + front.countP (order.atMost pivot) ∧
        Divided order pivot front divided ∧
        result.toList = before ++ (divided ++ after) := by
  have last : span.stop - 1 = before.length + front.length := by omega
  have inside : span.stop - 1 < n := by
    have := span.inside
    omega
  have length : span.stop - 1 - span.start = front.length := by omega
  have reached : items.toList = (before ++ front) ++ pivot :: after := by simpa using shape
  have place : items[span.stop - 1] = pivot := getElem_of_toList reached (by simp [last]) inside
  have unscanned : items.toList = before ++ ([] ++ (front ++ pivot :: after)) := shape
  obtain ⟨scanned, others, position, ended, index, perm, list⟩ :=
    scan_divides order span pivot (Nat.le_refl span.start) (Nat.le_refl span.start) (by omega) items
      tally unscanned start start answered
  simp only [List.nil_append] at perm
  -- The pivot is still the last item of the range: only items in front of it were exchanged.
  have forward : scanned.toList =
      (before ++ front.filter (order.atMost pivot)) ++ (others ++ pivot :: after) := by
    simpa using list
  have pivotPlace : position.index =
      (before ++ front.filter (order.atMost pivot)).length := by
    rw [index, start, List.length_append, List.countP_eq_length_filter]
  have lastPlace : span.stop - 1 =
      (before ++ front.filter (order.atMost pivot)).length + others.length := by
    have halves := (List.filter_append_perm (order.atMost pivot) front).length_eq
    rw [List.length_append] at halves ⊢
    rw [last, perm.length_eq]
    omega
  have pivotInside : position.index < n := Nat.lt_of_lt_of_le position.upper span.inside
  obtain ⟨turned, same, result⟩ :=
    toList_swap_forward forward pivotPlace lastPlace pivotInside inside
  refine ⟨scanned.swap position.index (span.stop - 1) pivotInside inside, _, position, ?_, index,
    ⟨turned, same.trans perm, rfl⟩, ?_⟩
  · unfold run
    simp only [place, length, ended, Outcome.andThen_done]
    rfl
  · simpa using result

end Partition

end SortBench.Sorting
