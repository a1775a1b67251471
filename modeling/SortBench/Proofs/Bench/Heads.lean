import SortBench.Proofs.Bench.Ordered
import SortBench.Proofs.Sorting.Heads

/-!
# The loop of the quicksort on the bench

The loop invariant of the sort over a stack holds of any items that a total preorder compares, so
also of every range of ordered values on a bench whose tally is empty.
-/

namespace SortBench.Bench

open Sorting

/-- Where a total preorder compares the items of a range, the quicksort over a stack ends well, and
at each head of its loop the pending spans, the items and the tally are tied together. This holds of
any comparisons of any items, and so of every range of two values or more on a bench whose tally is
empty.

What is tied together is what explains the loop: the pending spans are disjoint parts of the range
in order of position, what lies between them is settled, and the stack is no higher than the tally
says. The number of turns follows, and with it that the loop comes to an end.

Proof: the tie between stack, items and tally holds when the span is alone on the stack, and every
turn keeps it, by cases on whether the top is partitioned. At the end the stack is empty, and then
the tie says that all is in order. -/
theorem quickSortIterative_loops :
    (∀ {α ε : Type} {n : Nat} (order : Comparison α ε) (among : α → Prop) (span : Span n)
        (items : Vector α n),
      order.Ranks among → Holds among span.start span.stop items →
        ∃ after counted, Pending.sort order span items {} = .done after counted () ∧
          Pending.Loops order span items after counted) ∧
      ∀ (low high : Int) (values : Array Value),
        0 ≤ low ∧ low < high ∧ high < values.size → TotalBetween low high values →
          ∃ (span : Span values.size) (after : Vector Value values.size) (counted : Tally),
            (span.start : Int) = low ∧ (span.stop : Int) = high + 1 ∧
              quickSortIterative low high { values, tally := some {} } =
                (.ok (), { values := after.toArray, tally := some counted }) ∧
              Pending.Loops order span values.toVector after counted := by
  refine ⟨fun _ _ span items ranks held => Pending.sort_loops ranks held, ?_⟩
  rintro low high values ⟨lower, several, upper⟩ total
  obtain ⟨family, ordered⟩ := total.exists_family
  unfold quickSortIterative
  obtain ⟨few, _⟩ | ⟨_, outside, _⟩ | ⟨span, ⟨_, _, _, start, stop⟩, sorted⟩ :=
    sortRange_cases low high values
  · exact absurd several (Int.not_lt_of_ge few)
  · exact absurd ⟨lower, upper⟩ outside
  · have held : Holds (Value.IsOrdered family) span.start span.stop values.toVector :=
      ordered.holds lower (by omega) (by omega)
    obtain ⟨after, counted, ended, loops⟩ := Pending.sort_loops (order_ranks family) held
    refine ⟨span, after, counted, by omega, by omega, ?_, loops⟩
    rw [sorted, perform, Option.getD_some, ended]
    rfl

/-- The natural numbers in their order. -/
def naturals : Comparison Nat Unit :=
  { le := fun a b => .ok (decide (a ≤ b)), gt := fun a b => .ok (decide (b < a)) }

/-- Four integers, of which the last one is not the greatest, so that both sides of the first
division have something in them. -/
def fourIntegers : Array Value :=
  #[.integer 2, .integer 4, .integer 1, .integer 3]

/-- The loop over four natural numbers has five turns, two for each partition and one; over four
integers on the bench it has as many. -/
theorem quickSortIterative_loops_four :
    (naturals.Ranks (fun _ => True) ∧ Holds (fun _ => True) 0 4 #v[2, 4, 1, 3]) ∧
      (∃ after counted,
        Pending.sort naturals (Span.mk 0 4 (by decide) (by decide)) #v[2, 4, 1, 3] {} =
            .done after counted () ∧
          Pending.Reaches naturals (Span.mk 0 4 (by decide) (by decide)) #v[2, 4, 1, 3] 5 []
            after counted) ∧
      (0 ≤ (0 : Int) ∧ (0 : Int) < 3 ∧ (3 : Int) < fourIntegers.size) ∧
      TotalBetween 0 3 fourIntegers ∧
      ∃ (span : Span fourIntegers.size) (after : Vector Value fourIntegers.size)
          (counted : Tally),
        quickSortIterative 0 3 { values := fourIntegers, tally := some {} } =
            (.ok (), { values := after.toArray, tally := some counted }) ∧
          Pending.Reaches order span fourIntegers.toVector 5 [] after counted := by
  have ranks : naturals.Ranks (fun _ => True) := by
    constructor
    case answers => exact fun _ _ _ _ => ⟨_, rfl⟩
    case total =>
      intro a b _ _ greater
      have less : ¬ a ≤ b := of_decide_eq_false (Except.ok.inj greater)
      exact congrArg Except.ok (decide_eq_true (Nat.le_of_not_le less))
    case trans =>
      intro a b c _ _ _ first second
      exact congrArg Except.ok (decide_eq_true (Nat.le_trans
        (of_decide_eq_true (Except.ok.inj first)) (of_decide_eq_true (Except.ok.inj second))))
    case opposite =>
      rintro a b _ _ _ ⟨⟩
      simp only [naturals, ← Nat.not_le, decide_not]
  have held : Holds (fun _ => True) 0 4 #v[2, 4, 1, 3] := fun _ _ _ _ => True.intro
  have inside : 0 ≤ (0 : Int) ∧ (0 : Int) < 3 ∧ (3 : Int) < fourIntegers.size := by decide
  have ordered : OrderedBetween .number 0 3 fourIntegers := by
    intro k value lower upper found
    obtain rfl | rfl | rfl | rfl : k = 0 ∨ k = 1 ∨ k = 2 ∨ k = 3 := by omega
    all_goals
      cases found
      exact ⟨rfl, nofun⟩
  refine ⟨⟨ranks, held⟩, ?_, inside, ordered.total, ?_⟩
  · obtain ⟨after, counted, ended, loops⟩ := quickSortIterative_loops.1 naturals _
      (Span.mk 0 4 (by decide) (by decide)) #v[2, 4, 1, 3] ranks held
    have work : counted.partitions = 2 := by
      have tally := congrArg Outcome.tally ended
      exact (congrArg Tally.partitions tally).symm.trans (by decide +kernel)
    obtain ⟨popped, final⟩ := loops.ends
    obtain ⟨_, _, turns, _⟩ := loops.ended final
    obtain rfl : popped = 5 := by rw [turns, work]
    exact ⟨after, counted, ended, final⟩
  · obtain ⟨span, after, counted, _, _, ended, loops⟩ :=
      quickSortIterative_loops.2 0 3 fourIntegers inside ordered.total
    have work : counted.partitions = 2 := by
      have tally := congrArg (fun run => run.2.tally.map Tally.partitions) ended
      exact Option.some.inj (tally.symm.trans (by decide +kernel))
    obtain ⟨popped, final⟩ := loops.ends
    obtain ⟨_, _, turns, _⟩ := loops.ended final
    obtain rfl : popped = 5 := by rw [turns, work]
    exact ⟨span, after, counted, ended, final⟩

end SortBench.Bench
