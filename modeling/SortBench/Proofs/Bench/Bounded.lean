import SortBench.Proofs.Bench.Ranges
import SortBench.Proofs.Sorting.Divisions

/-!
# Bounds on the work of the quicksorts

However the comparisons of the values of a range are answered, the quicksorts of the range take no
more work than the worst tree of partitions, and no less than the best one. Values that are not a
number are compared like all others.
-/

namespace SortBench.Bench

open Sorting

/-- The items at the positions of a range are the values of the range. The bounds on work are proved
about spans of a vector, and are asked about inclusive ranges of integers; this is the step between
them. -/
theorem holds_between {low high : Int} {values : Array Value} {start stop : Nat}
    (first : start = low.toNat) (last : stop = (high + 1).toNat) :
    Holds (fun value => value ∈ between low high values) start stop values.toVector := by
  intro k inside lower upper
  refine List.mem_iff_getElem.mpr ⟨k - start, ?_, ?_⟩
  · simp only [between, List.length_drop, List.length_take, Array.length_toList]
    omega
  · simp [between, ← first, Nat.add_sub_cancel' lower]

/-- Where each item of a range can be compared with each, whatever the answers are, the quicksort
over a stack ends well, with its work within bounds, and the recursive one does the same or gives up
for want of room. This holds of any comparisons of any items, and so of every range of two values or
more on a bench whose tally is empty. No order is assumed: answers that go round in circles, or that
change with the side on which an item stands, are within the same bounds.

Proof: both sorts follow one tree of divisions, which each partition makes from the items as it
finds them. The counters are read off the tree, and the bounds are inductions over it. -/
theorem quickSorts_bounded :
    (∀ {α ε : Type} {n : Nat} (order : Comparison α ε) (exhausted : ε) (among : α → Prop)
        (span : Span n) (items : Vector α n),
      order.Answers among → Holds among span.start span.stop items →
        ∃ after counted, Pending.sort order span items {} = .done after counted () ∧
          Bounds span.size counted ∧
          ∀ room,
            (counted.maxDepth ≤ room ∧
                Quick.sort order exhausted room 1 span items {} = .done after counted ()) ∨
              (room < counted.maxDepth ∧
                (Quick.sort order exhausted room 1 span items {}).result = .error exhausted)) ∧
      ∀ (low high : Int) (values : Array Value),
        0 ≤ low ∧ low < high ∧ high < values.size →
        (∀ a ∈ between low high values, ∀ b ∈ between low high values,
          ∃ answer, a.le? b = .ok answer) →
          ∃ after counted,
            quickSortIterative low high { values, tally := some {} } =
                (.ok (), { values := after, tally := some counted }) ∧
              Bounds (high - low + 1).toNat counted ∧
              ((counted.maxDepth ≤ deepestLevel ∧
                  quickSort low high { values, tally := some {} } =
                    (.ok (), { values := after, tally := some counted })) ∨
                (deepestLevel < counted.maxDepth ∧
                  (quickSort low high { values, tally := some {} }).1 = .error tooDeep)) := by
  refine ⟨fun _ exhausted _ span items answers held =>
    Pending.sort_bounded exhausted answers span items held, ?_⟩
  rintro low high values ⟨lower, several, upper⟩ compared
  have answers : order.Answers fun value => value ∈ between low high values := by
    intro a b left right
    obtain ⟨answer, answered⟩ := compared a left b right
    exact ⟨answer, mapError_eq_ok.mpr answered⟩
  unfold quickSortIterative quickSort
  obtain ⟨few, _⟩ | ⟨_, outside, _⟩ | ⟨span, ⟨_, _, _, start, stop⟩, sorted⟩ :=
    sortRange_cases low high values
  · exact absurd several (by omega)
  · exact absurd ⟨lower, upper⟩ outside
  · have size : span.size = (high - low + 1).toNat := by
      unfold Span.size
      omega
    obtain ⟨after, counted, ended, bounds, recursive⟩ := Pending.sort_bounded tooDeep answers span
      values.toVector (holds_between start (by omega))
    rw [sorted, sorted, ← size]
    refine ⟨after.toArray, counted, ?_, bounds, ?_⟩
    · rw [perform, Option.getD_some, ended]
      rfl
    · refine (recursive deepestLevel).imp ?_ ?_
      · rintro ⟨shallow, same⟩
        exact ⟨shallow, by rw [perform, Option.getD_some, same]; rfl⟩
      · rintro ⟨deep, gaveUp⟩
        exact ⟨deep, gaveUp⟩

/-- Numbers of which a first one is found not greater than a second one if both are even or both
odd, which is no order. It is not antisymmetric and leaves half of all pairs without an answer of
yes in either direction. -/
def byParity : Comparison Nat Unit :=
  { le := fun a b => .ok (a % 2 == b % 2), gt := fun a b => .ok (a % 2 != b % 2) }

/-- Four numbers, two of which are not a number. Each comparison with those is answered, always with
no. -/
def halfUndefined : Array Value :=
  #[.real (.nan 0), .integer 2, .boolean true, .real (.nan 1)]

/-- Four items take six comparisons at most and two levels at least, also where the comparisons have
no order. Both parts are met: one by numbers that are compared by their parity, one by values of
which half compare with nothing. -/
theorem quickSorts_bounded_four :
    (byParity.Answers (fun _ => True) ∧ Holds (fun _ => True) 0 4 #v[1, 2, 3, 4]) ∧
      (∃ after counted,
        Pending.sort byParity (Span.mk 0 4 (by decide) (by decide)) #v[1, 2, 3, 4] {} =
            .done after counted () ∧
          counted.comparisons ≤ 6 ∧ 2 ≤ counted.maxDepth) ∧
      (0 ≤ (0 : Int) ∧ (0 : Int) < 3 ∧ (3 : Int) < halfUndefined.size) ∧
      (∀ a ∈ between 0 3 halfUndefined, ∀ b ∈ between 0 3 halfUndefined,
        ∃ answer, a.le? b = .ok answer) ∧
      ∃ after counted,
        quickSort 0 3 { values := halfUndefined, tally := some {} } =
            (.ok (), { values := after, tally := some counted }) ∧
          counted.comparisons ≤ 6 ∧ 2 ≤ counted.maxDepth := by
  have two_le {work : Tally} (bounds : Bounds 4 work) : 2 ≤ work.maxDepth := by
    have places := bounds.size_lt_two_pow
    by_contra shallow
    have few : 2 ^ (work.maxDepth + 1) ≤ 2 ^ 2 := Nat.pow_le_pow_right (by decide) (by omega)
    omega
  have answers : byParity.Answers (fun _ => True) := fun _ _ _ _ => ⟨_, rfl⟩
  have held : Holds (fun _ => True) 0 4 #v[1, 2, 3, 4] := fun _ _ _ _ => True.intro
  have inside : 0 ≤ (0 : Int) ∧ (0 : Int) < 3 ∧ (3 : Int) < halfUndefined.size := by decide
  have compared : ∀ a ∈ between 0 3 halfUndefined, ∀ b ∈ between 0 3 halfUndefined,
      ∃ answer, a.le? b = .ok answer := by
    have numeric : ∀ value ∈ between 0 3 halfUndefined, value.family? = some .number := by decide
    intro a left b right
    exact (Value.decide_answers_iff ..).mpr ⟨.number, numeric a left, numeric b right⟩
  refine ⟨⟨answers, held⟩, ?_, inside, compared, ?_⟩
  · obtain ⟨after, counted, ended, bounds, _⟩ := quickSorts_bounded.1 byParity () _
      (Span.mk 0 4 (by decide) (by decide)) #v[1, 2, 3, 4] answers held
    exact ⟨after, counted, ended, bounds.comparisons_le_pairs, two_le bounds⟩
  · obtain ⟨after, counted, _, bounds, ⟨_, same⟩ | ⟨deep, _⟩⟩ :=
      quickSorts_bounded.2 0 3 halfUndefined inside compared
    · exact ⟨after, counted, same, bounds.comparisons_le_pairs, two_le bounds⟩
    · have shallow : counted.maxDepth ≤ 3 :=
        Nat.le_trans bounds.levels_le_partitions bounds.partitions_le
      exact absurd (Nat.lt_of_lt_of_le deep shallow) (by decide)

end SortBench.Bench
