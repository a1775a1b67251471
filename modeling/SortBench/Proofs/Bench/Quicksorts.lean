import SortBench.Bench.Operations
import SortBench.Proofs.Sorting.Lopsided
import SortBench.Proofs.Sorting.Refused
import SortBench.Proofs.Value.Families

/-!
# The two quicksorts on the bench

Both quicksorts check their range in the same way, so they differ only where the range is
sorted. There they are the same sort as long as no level beyond the deepest one is reached, on
whatever values and from whatever tally: also when a comparison is refused, and then with the
same refusal, the same values in the same places and the same work counted.

Beyond the deepest level the recursive sort gives up. The other one completes: to reach a second
level it must have compared every value of the range with the last one, so that all of them are
of one family and no comparison is refused later. That case does occur, for example for enough
equal values, so the two sorts are not one operation.
-/

namespace SortBench.Bench

open Sorting

/-- A sort of the spans of arrays of every length. -/
abbrev SpanSort :=
  {length : Nat} → Span length → Vector Value length → Tally → Outcome Value Fault Unit length

/-- What becomes of a range does not depend on the sort or on the tally: there is nothing to sort,
or the range is refused, and in both cases the bench stays as it is, or its span is sorted. The
quantifiers are in this order because two sorts are compared: they have to be in the same case. -/
theorem sortRange_cases (low high : Int) (values : Array Value) :
    (high ≤ low ∧ ∀ (sort : SpanSort) (tally : Option Tally),
        sortRange low high sort { values, tally } = (.ok (), { values, tally })) ∨
      (low < high ∧ ¬ (0 ≤ low ∧ high < values.size) ∧ ∃ cause,
        ∀ (sort : SpanSort) (tally : Option Tally), sortRange low high sort { values, tally } =
          (.error (.precondition cause), { values, tally })) ∨
        ∃ span : Span values.size, (low < high ∧ 0 ≤ low ∧ high < values.size ∧
            span.start = low.toNat ∧ span.stop = high.toNat + 1) ∧
          ∀ (sort : SpanSort) (tally : Option Tally),
            sortRange low high sort { values, tally } = perform { values, tally } (sort span) := by
  by_cases trivial : high ≤ low
  · exact Or.inl ⟨trivial, fun _ _ => by simp only [sortRange, trivial, ↓reduceDIte]⟩
  · cases checked : requireRange values.size low high with
    | violated cause =>
      refine Or.inr (Or.inl ⟨by omega, ?_, cause, fun _ _ => ?_⟩)
      · intro inside
        unfold requireRange at checked
        rw [dif_neg (by omega), dif_neg (by omega)] at checked
        cases checked
      · simp only [sortRange, trivial, ↓reduceDIte, checked, refuse]
    | met inside =>
      refine Or.inr (Or.inr ⟨span (by omega) inside, ?_, fun _ _ => ?_⟩)
      · exact ⟨by omega, inside.1, inside.2, rfl, rfl⟩
      · simp only [sortRange, trivial, ↓reduceDIte, checked]

/-- Two values can be compared exactly if they are of one family. A partition compares with one
item, so it either goes through or is refused, and where the first one went through the items in it
are all of one family. -/
theorem order_kinds : order.Kinds Value.family? :=
  Comparison.Kinds.mapError
    ⟨fun _ _ => Value.decide_answers_iff .., fun _ _ => Value.decide_answers_iff ..⟩ _

/-- A sort that reaches a second level from nothing has not failed in its first partition. So it
ends well from every tally, as no later partition meets a pair of values from two families. -/
theorem completes_of_second_level {n : Nat} (span : Span n) (items : Vector Value n)
    (second : 1 < (Pending.sort order span items {}).tally.maxDepth) (tally : Tally) :
    (Pending.sort order span items tally).result = .ok () := by
  obtain ⟨_, after, counted, error, failed, ended⟩ | ⟨admitted, _, _⟩ :=
    Pending.sort_decidedBy order_kinds span items {}
  · obtain ⟨several, partition⟩ := Pending.run_of_firstPartition_failed failed
    have depth := Partition.run_maxDepth order span (span.start_lt_stop several) items
      (Tally.reached {} 1)
    rw [partition] at depth
    rw [ended] at second
    exact absurd second (Nat.not_lt_of_le (Nat.le_of_eq depth))
  · -- What there is to refuse does not depend on the tally.
    obtain ⟨refused, _⟩ | ⟨_, _, well⟩ := Pending.sort_decidedBy order_kinds span items tally
    · exact absurd refused admitted
    · exact well

/-- The deepest level that the sort of a range over a stack reaches when nothing was counted before.
It depends on the values only, and is the measure by which the recursive sort succeeds or gives
up. -/
def nesting (low high : Int) (values : Array Value) : Nat :=
  ((quickSortIterative low high { values, tally := some {} }).2.tally.getD {}).maxDepth

/-- The recursive sort of a range is the other one if that stays within the deepest level, and gives
up if not. Equality here is of operations on one bench: the answer, the array and the tally are the
same, and so is a refused comparison with all that it leaves behind. -/
theorem quickSort_cases (low high : Int) (bench : Bench) :
    (nesting low high bench.values ≤ deepestLevel ∧
        bench.quickSort low high = bench.quickSortIterative low high) ∨
      (deepestLevel < nesting low high bench.values ∧
        (bench.quickSort low high).1 = .error tooDeep) := by
  obtain ⟨values, tally⟩ := bench
  unfold nesting quickSort quickSortIterative
  obtain ⟨_, kept⟩ | ⟨_, _, cause, refused⟩ | ⟨span, _, sorted⟩ :=
    sortRange_cases low high values
  · simp only [kept]
    exact Or.inl ⟨Nat.zero_le _, trivial⟩
  · simp only [refused]
    exact Or.inl ⟨Nat.zero_le _, trivial⟩
  · simp only [sorted]
    obtain ⟨shallow, same⟩ | ⟨deep, ended⟩ := Quick.sort_eq_pending_or_exhausted order tooDeep
      deepestLevel span values.toVector (tally.getD {})
    · exact Or.inl ⟨shallow, by simp only [perform, same]⟩
    · exact Or.inr ⟨deep, ended⟩

/-- Beyond the deepest level the sort over a stack completes. It can fail by a refused comparison
only, and that would have been met at the first level. -/
theorem quickSortIterative_completes (low high : Int) (bench : Bench)
    (deep : deepestLevel < nesting low high bench.values) :
    (bench.quickSortIterative low high).1 = .ok () := by
  obtain ⟨values, tally⟩ := bench
  unfold nesting quickSortIterative at deep
  unfold quickSortIterative
  obtain ⟨_, kept⟩ | ⟨_, _, cause, refused⟩ | ⟨span, _, sorted⟩ :=
    sortRange_cases low high values
  · simp only [kept] at deep
    exact absurd deep (Nat.not_lt_zero _)
  · simp only [refused] at deep
    exact absurd deep (Nat.not_lt_zero _)
  · simp only [sorted] at deep ⊢
    have second : 1 < (Pending.sort order span values.toVector {}).tally.maxDepth :=
      Nat.lt_trans (by decide) deep
    exact completes_of_second_level span values.toVector second (tally.getD {})

/-- The two quicksorts do the same to every bench, refused comparisons and all, unless the levels of
the range go beyond the deepest one. In that case the recursive sort gives up, and the other one
completes. There is no third case, and which of the two it is can be told from the values alone.

Proof: a turn of the loop over a stack is a call of the recursion, and what waits on the stack are
the calls to come, in their order and with their levels. With room to spare the two sorts are
therefore one, and the room that is needed is the deepest level. -/
theorem quickSort_agrees (low high : Int) (bench : Bench) :
    (nesting low high bench.values ≤ deepestLevel →
        bench.quickSort low high = bench.quickSortIterative low high) ∧
      (deepestLevel < nesting low high bench.values →
        (bench.quickSort low high).1 = .error tooDeep ∧
          (bench.quickSortIterative low high).1 = .ok ()) := by
  obtain ⟨shallow, same⟩ | ⟨deep, ended⟩ := quickSort_cases low high bench
  · exact ⟨fun _ => same, fun deep => absurd deep (Nat.not_lt_of_le shallow)⟩
  · refine ⟨fun shallow => absurd deep (Nat.not_lt_of_le shallow), fun _ => ⟨ended, ?_⟩⟩
    exact quickSortIterative_completes low high bench deep

/-- An array of equal values has one level fewer than it has values: it is sorted already, so each
partition takes one value out. -/
theorem nesting_replicate {count : Nat} (several : 2 ≤ count) :
    nesting 0 ((count : Int) - 1) (Array.replicate count (.integer 0)) = count - 1 := by
  obtain ⟨few, _⟩ | ⟨_, outside, _⟩ | ⟨span, ⟨_, _, _, start, stop⟩, sorted⟩ :=
    sortRange_cases 0 ((count : Int) - 1) (Array.replicate count (.integer 0))
  · omega
  · exact absurd ⟨Int.le_refl 0, by simp⟩ outside
  have size : span.size = count := by
    rw [Span.size, start, stop]
    omega
  have equal (k : Nat) (inside : k < (Array.replicate count (Value.integer 0)).size) :
      (Array.replicate count (Value.integer 0)).toVector[k] = .integer 0 := by simp
  have answers : order.Answers (· = Value.integer 0) := by
    rintro _ _ rfl rfl
    exact ⟨true, rfl⟩
  have ascending : Ascending order span.start span.stop
      (Array.replicate count (Value.integer 0)).toVector := by
    intro i j before inside _ _
    rw [equal i (Nat.lt_trans before inside), equal j inside]
    rfl
  have ended := Pending.sort_of_ascending tooDeep answers
    (fun k inside _ _ => equal k inside) ascending
  rw [nesting, quickSortIterative, sorted, perform]
  simp only [Option.getD_some, ended, size]
  simp [Outcome.done, Tally.oneByOne]

/-- So the two quicksorts do part, on every array of more equal values than the deepest level and
one: the recursive sort gives up and the other one completes. The bound in the statement of
agreement is therefore no precaution, and it cannot be left out. -/
theorem quickSorts_part {count : Nat} (many : deepestLevel + 1 < count) (tally : Option Tally) :
    (quickSort 0 ((count : Int) - 1) ⟨Array.replicate count (.integer 0), tally⟩).1 =
        .error tooDeep ∧
      (quickSortIterative 0 ((count : Int) - 1) ⟨Array.replicate count (.integer 0), tally⟩).1 =
        .ok () := by
  have deep : deepestLevel <
      nesting 0 ((count : Int) - 1) (Array.replicate count (.integer 0)) := by
    rw [nesting_replicate (by omega)]
    omega
  refine ⟨?_, quickSortIterative_completes _ _ _ deep⟩
  obtain ⟨shallow, _⟩ | ⟨_, gaveUp⟩ := quickSort_cases 0 ((count : Int) - 1)
    ⟨Array.replicate count (.integer 0), tally⟩
  · exact absurd deep (Nat.not_lt_of_le shallow)
  · exact gaveUp

end SortBench.Bench
