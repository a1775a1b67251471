import SortBench.Proofs.Bench.Conservation
import SortBench.Proofs.Bench.Ordered

/-!
# Quicksorts sort their range

A quicksort of a range leaves the values of the range ascending and the others where they were. The
whole array has the same values as before; as those outside the range have not moved, the range by
itself has the same values too.
-/

namespace SortBench.Bench

/-- The values at the positions of a range, both ends included. It is empty for ranges that run
backwards. -/
def between (low high : Int) (values : Array Value) : List Value :=
  (values.toList.take (high + 1).toNat).drop low.toNat

/-- An array is the values before a range, those of the range, and those after it. The condition on
the bounds admits empty ranges and no others that run backwards. -/
theorem toList_eq_between {low high : Int} (ordered : low ≤ high + 1) (values : Array Value) :
    values.toList = values.toList.take low.toNat ++ between low high values ++
      values.toList.drop (high + 1).toNat := by
  have before : (values.toList.take (high + 1).toNat).take low.toNat =
      values.toList.take low.toNat := by
    rw [List.take_take, Nat.min_eq_left (by omega)]
  rw [between, ← before, List.take_append_drop, List.take_append_drop]

/-- Where the array has the same values and those outside a range have not moved, the range has the
same values. That the whole array is rearranged is therefore enough, and no rearrangement of the
range has to be followed through the run. -/
theorem Conserves.between_perm {low high : Int} {before after : Array Value}
    (conserves : Conserves (fun k => low ≤ k ∧ k ≤ high) before after) (ordered : low ≤ high + 1) :
    (between low high after).Perm (between low high before) := by
  have same (k : Nat) (outside : ¬ (low ≤ k ∧ k ≤ high)) :
      after.toList[k]? = before.toList[k]? := by
    simpa using conserves.elsewhere k outside
  have front : after.toList.take low.toNat = before.toList.take low.toNat := by
    apply List.ext_getElem?
    intro k
    rw [List.getElem?_take, List.getElem?_take]
    split
    · exact same k (by omega)
    · rfl
  have back : after.toList.drop (high + 1).toNat = before.toList.drop (high + 1).toNat := by
    apply List.ext_getElem?
    intro k
    rw [List.getElem?_drop, List.getElem?_drop]
    exact same _ (by omega)
  have perm := conserves.perm
  rw [toList_eq_between ordered after, toList_eq_between ordered before, front, back,
    List.perm_append_right_iff, List.perm_append_left_iff] at perm
  exact perm

/-- A range of an array has been sorted: it is ascending and has the values that it had before, and
all other positions are as they were. -/
structure SortedBetween (low high : Int) (before after : Array Value) : Prop where
  /-- No value of the range is greater than a later one of the range. -/
  ascending : AscendingBetween low high after
  /-- The range has the same values as before, each as often. -/
  perm : (between low high after).Perm (between low high before)
  /-- Nothing outside the range has moved. -/
  elsewhere : ∀ k : Nat, ¬ (low ≤ k ∧ k ≤ high) → after[k]? = before[k]?

/-- The sort over a stack sorts every range of the array that a total preorder compares. This puts
together the order of the result and its conservation, which are proved apart. -/
theorem quickSortIterative_sorted (low high : Int) (bench : Bench)
    (inside : 0 ≤ low ∧ low ≤ high ∧ high < bench.values.size)
    (total : TotalBetween low high bench.values) :
    ∃ after, bench.quickSortIterative low high = (.ok (), after) ∧
      SortedBetween low high bench.values after.values := by
  obtain ⟨lower, _, upper⟩ := inside
  obtain ⟨family, ordered⟩ := total.exists_family
  obtain ⟨after, ended, ascending⟩ :=
    quickSortIterative_ascending low high bench (fun _ => ⟨lower, upper⟩) ordered
  have conserves := quickSortIterative_conserves low high bench
  rw [ended] at conserves
  refine ⟨after, ended, ?_⟩
  constructor
  · exact ascending
  · exact conserves.between_perm (by omega)
  · exact conserves.elsewhere

/-- A range of fewer than two positions is left as it is, wherever it lies, even where it lies
outside the array. -/
theorem sortRange_few (low high : Int) (sort : SpanSort) (bench : Bench) (few : high ≤ low) :
    sortRange low high sort bench = (.ok (), bench) := by
  rw [sortRange, dif_pos few]

/-- Both quicksorts leave ranges of fewer than two positions as they are, wherever they lie. Every
range of the array that a total preorder compares is sorted by the one over a stack, and by the
recursive one in the same way, which gives up exactly if the levels of the range go beyond the
deepest one. Values outside the range may be of any kind: they are never compared, and they are
where they were.

Proof: the sort over a stack is shown to sort, by its order and its conservation; the recursive one
is the same operation or gives up. -/
theorem quickSorts_sort (low high : Int) (bench : Bench) :
    (high ≤ low → bench.quickSortIterative low high = (.ok (), bench) ∧
        bench.quickSort low high = (.ok (), bench)) ∧
      (0 ≤ low ∧ low ≤ high ∧ high < bench.values.size →
        TotalBetween low high bench.values →
          ∃ after, bench.quickSortIterative low high = (.ok (), after) ∧
            SortedBetween low high bench.values after.values ∧
            (nesting low high bench.values ≤ deepestLevel →
              bench.quickSort low high = (.ok (), after)) ∧
            (deepestLevel < nesting low high bench.values →
              (bench.quickSort low high).1 = .error tooDeep)) := by
  constructor
  · intro few
    exact ⟨sortRange_few low high _ bench few, sortRange_few low high _ bench few⟩
  · intro inside total
    obtain ⟨after, ended, sorted⟩ := quickSortIterative_sorted low high bench inside total
    refine ⟨after, ended, sorted, ?_⟩
    obtain ⟨shallow, same⟩ | ⟨deep, exhausted⟩ := quickSort_cases low high bench
    · exact ⟨fun _ => same.trans ended, fun deep => absurd deep (Nat.not_lt_of_le shallow)⟩
    · exact ⟨fun shallow => absurd deep (Nat.not_lt_of_le shallow), fun _ => exhausted⟩

/-- Three integers between a text and the absent value. -/
def integersInside : Bench :=
  ofList [.text "x", .integer 3, .integer 1, .integer 2, .absent]

/-- The integers are sorted where they are, and a range that runs backwards beyond the end is
left. -/
theorem quickSorts_sort_inside :
    (integersInside.quickSortIterative 7 2 = (.ok (), integersInside) ∧
        integersInside.quickSort 7 2 = (.ok (), integersInside)) ∧
      (0 ≤ (1 : Int) ∧ (1 : Int) ≤ 3 ∧ (3 : Int) < integersInside.values.size) ∧
      TotalBetween 1 3 integersInside.values ∧
      ∃ after, integersInside.quickSortIterative 1 3 = (.ok (), after) ∧
        SortedBetween 1 3 integersInside.values after.values ∧
        integersInside.quickSort 1 3 = (.ok (), after) := by
  have inside : 0 ≤ (1 : Int) ∧ (1 : Int) ≤ 3 ∧ (3 : Int) < integersInside.values.size := by decide
  have ordered : OrderedBetween .number 1 3 integersInside.values := by
    intro k value lower upper found
    obtain rfl | rfl | rfl : k = 1 ∨ k = 2 ∨ k = 3 := by omega
    all_goals
      cases found
      exact ⟨rfl, nofun⟩
  refine ⟨(quickSorts_sort 7 2 integersInside).1 (by decide), inside, ordered.total, ?_⟩
  obtain ⟨after, ended, sorted, recursive, _⟩ :=
    (quickSorts_sort 1 3 integersInside).2 inside ordered.total
  exact ⟨after, ended, sorted, recursive (by decide +kernel)⟩

end SortBench.Bench
