import SortBench.Proofs.Bench.Ranges
import SortBench.Proofs.Sorting.Divided

/-!
# The partition to the letter

A partition of a range of the array puts its last value in the place that its rank among the others
gives it. What the comparisons answer is not looked into, so values that are not a number are
divided like all others: none of them is ever found not greater.
-/

namespace SortBench.Bench

open Sorting

/-- An array is the values before a range, those of the range in front of its last one, that one,
and those after the range. A partition treats these four parts differently. -/
theorem toList_eq_front {low high : Int} {values : Array Value} {pivot : Value} (lower : 0 ≤ low)
    (ordered : low ≤ high) (last : values[high.toNat]? = some pivot) :
    values.toList = values.toList.take low.toNat ++
      (between low (high - 1) values ++ pivot :: values.toList.drop (high + 1).toNat) := by
  obtain ⟨inside, rfl⟩ := Array.getElem?_eq_some_iff.mp last
  have met : 0 ≤ low ∧ high < values.size := by omega
  have some : low.toNat < high.toNat + 1 := by omega
  have pieces := (span ordered met).toList_eq_front some values.toVector inside
  have front : between low (high - 1) values = (values.toList.take high.toNat).drop low.toNat := by
    rw [between, Int.sub_add_cancel]
  have back : (high + 1).toNat = high.toNat + 1 := by omega
  rw [front, back]
  exact pieces

theorem length_between_front {low high : Int} {values : Array Value}
    (inside : 0 ≤ low ∧ low ≤ high ∧ high < values.size) :
    (between low (high - 1) values).length = high.toNat - low.toNat := by
  simp only [between, List.length_drop, List.length_take, Array.length_toList]
  omega

/-- The partition of a range that the array has is done on the bench. Its answer is a position in
the array and not in the range. -/
theorem partition_inside (low high : Int) (bench : Bench)
    (inside : 0 ≤ low ∧ low ≤ high ∧ high < bench.values.size) :
    ∃ (span : Span bench.values.size) (some : span.start < span.stop),
      span.start = low.toNat ∧ span.stop = high.toNat + 1 ∧
        bench.partition low high = perform bench fun items tally =>
          (Partition.run order span some items tally).andThen fun items tally position =>
            .done items tally position.index := by
  obtain ⟨lower, ordered, upper⟩ := inside
  unfold partition
  rw [dif_neg (by omega)]
  split
  case h_1 cause violated =>
    unfold requireRange at violated
    rw [dif_neg (by omega), dif_neg (by omega)] at violated
    cases violated
  case h_2 met _ => exact ⟨span ordered met, by simp only [span]; omega, rfl, rfl, rfl⟩

/-- Whatever the comparisons answer, a partition divides the items in front of the last one by that
one: those found not greater come first, in their order, then the last one, which is where the
answer says, then the others; nothing outside the range moves, and the tally grows by a comparison
for each item in front, an exchange for each one found not greater and one more, and one partition.
This holds of any comparisons of any items, and so of every range of the array on the bench in which
each value can be compared with the last one.

Comparisons are with the last item only, so no law relates the answers, and none is assumed. The
items found greater come in some order that is not stated: an exchange may carry one of them behind
the others.

Proof: by the scan of the range from left to right, with the items in front of the pivot split into
those already scanned, divided in two, and those still to come. -/
theorem partition_exact :
    (∀ {α ε : Type} {n : Nat} (order : Comparison α ε) (span : Span n)
        (some : span.start < span.stop) (items : Vector α n) (tally : Tally)
        (before front after : List α) (pivot : α),
      items.toList = before ++ (front ++ pivot :: after) → span.start = before.length →
      span.stop = before.length + front.length + 1 →
      (∀ item ∈ front, ∃ answer, order.le item pivot = .ok answer) →
        ∃ (result : Vector α n) (divided : List α) (position : span.Position),
          Partition.run order span some items tally =
              .done result (tally.merge (Partition.work order pivot front)) position ∧
            position.index = span.start + front.countP (order.atMost pivot) ∧
            Divided order pivot front divided ∧ result.toList = before ++ (divided ++ after)) ∧
      ∀ (low high : Int) (bench : Bench) (pivot : Value),
        0 ≤ low ∧ low ≤ high ∧ high < bench.values.size →
        bench.values[high.toNat]? = some pivot →
        (∀ value ∈ between low (high - 1) bench.values,
          ∃ answer, value.le? pivot = .ok answer) →
          ∃ (divided : List Value) (after : Bench),
            bench.partition low high =
                (.ok (low.toNat +
                  (between low (high - 1) bench.values).countP (order.atMost pivot)), after) ∧
              Divided order pivot (between low (high - 1) bench.values) divided ∧
              after.values.toList = bench.values.toList.take low.toNat ++
                (divided ++ bench.values.toList.drop (high + 1).toNat) ∧
              after.tally = bench.tally.map
                (·.merge (Partition.work order pivot (between low (high - 1) bench.values))) := by
  refine ⟨Partition.run_divides, ?_⟩
  intro low high bench pivot inside last answered
  obtain ⟨span, some, start, stop, performed⟩ := partition_inside low high bench inside
  have shape := toList_eq_front inside.1 inside.2.1 last
  have before : (bench.values.toList.take low.toNat).length = low.toNat := by
    simp only [List.length_take, Array.length_toList]
    omega
  obtain ⟨result, divided, position, ended, index, divides, list⟩ :=
    Partition.run_divides order span some bench.values.toVector (bench.tally.getD {})
      (bench.values.toList.take low.toNat) (between low (high - 1) bench.values)
      (bench.values.toList.drop (high + 1).toNat) pivot shape (start.trans before.symm)
      (by rw [stop, before, length_between_front inside]; omega)
      fun value member => by
        obtain ⟨answer, compared⟩ := answered value member
        exact ⟨answer, mapError_eq_ok.mpr compared⟩
  refine ⟨divided, { values := result.toArray, tally := bench.tally.map (·.merge
    (Partition.work order pivot (between low (high - 1) bench.values))) }, ?_, divides, list, rfl⟩
  rw [performed, perform, ended, Outcome.andThen_done, index, start]
  cases bench.tally <;> rfl

/-- Three items in a circle, each of which is not greater than the next one and no other. No item is
last, and no order has such answers. -/
def circular : Comparison (Fin 3) Empty :=
  { le := fun a b => .ok (b == a + 1), gt := fun a b => .ok (b != a + 1) }

/-- Numbers between the absent value and a text, one of them not a number. The range of the numbers
can be partitioned, though the array could not be sorted. -/
def undefinedInside : Bench :=
  ofList [.absent, .integer 3, .real (.nan 0), .integer 1, .boolean true, .integer 2, .text "x"]

/-- Items in a circle are divided by the last one; of the numbers, those that are one come in front
of two, and the one that is not a number behind it. -/
theorem partition_exact_circular :
    (∃ (result : Vector (Fin 3) 4) (divided : List (Fin 3))
        (position : (Span.mk 0 3 (by decide) (by decide) : Span 4).Position),
      Partition.run circular (Span.mk 0 3 (by decide) (by decide)) (by decide) #v[1, 0, 1, 2] {} =
          .done result { comparisons := 2, swaps := 2, partitions := 1 } position ∧
        position.index = 1 ∧ Divided circular 1 [1, 0] divided ∧ result.toList = divided ++ [2]) ∧
      (0 ≤ (1 : Int) ∧ (1 : Int) ≤ 5 ∧ (5 : Int) < undefinedInside.values.size) ∧
      undefinedInside.values[(5 : Int).toNat]? = some (.integer 2) ∧
      (∀ value ∈ between 1 (5 - 1) undefinedInside.values,
        ∃ answer, value.le? (.integer 2) = .ok answer) ∧
      ∃ (divided : List Value) (after : Bench),
        undefinedInside.partition 1 5 = (.ok 3, after) ∧
          Divided order (.integer 2)
            [.integer 3, .real (.nan 0), .integer 1, .boolean true] divided ∧
          after.values.toList = .absent :: (divided ++ [.text "x"]) ∧
          after.tally = some { comparisons := 4, swaps := 3, partitions := 1 } := by
  have inside : 0 ≤ (1 : Int) ∧ (1 : Int) ≤ 5 ∧ (5 : Int) < undefinedInside.values.size := by decide
  have answered : ∀ value ∈ between 1 (5 - 1) undefinedInside.values,
      ∃ answer, value.le? (.integer 2) = .ok answer := by
    intro value member
    have numeric : ∀ value ∈ between 1 (5 - 1) undefinedInside.values,
        value.family? = some .number := by decide
    exact (Value.decide_answers_iff ..).mpr ⟨.number, numeric value member, rfl⟩
  refine ⟨?_, inside, rfl, answered, ?_⟩
  · obtain ⟨result, divided, position, ended, index, divides, list⟩ :=
      partition_exact.1 circular (Span.mk 0 3 (by decide) (by decide)) (by decide) #v[1, 0, 1, 2]
        {} [] [1, 0] [2] 1 rfl rfl rfl fun _ _ => ⟨_, rfl⟩
    exact ⟨result, divided, position, ended, index, divides, list⟩
  · obtain ⟨divided, after, ended, divides, list, counted⟩ :=
      partition_exact.2 1 5 undefinedInside (.integer 2) inside rfl answered
    exact ⟨divided, after, ended, divides, list, counted⟩

end SortBench.Bench
