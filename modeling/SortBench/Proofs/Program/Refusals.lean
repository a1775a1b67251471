import SortBench.Proofs.Bench.Ordered
import SortBench.Proofs.Program.Names
import SortBench.Proofs.Sorting.Refused

/-!
# Arrays that the algorithms refuse

The built-in algorithms compare different pairs of values, and yet they refuse the same arrays:
those of two values or more that are not of one family. Each finds out in its first round, which is
a whole pass of the bubble sort or the partition of the whole array, and leaves the bench as that
round did. An array that comes through the first round is never refused.
-/

namespace SortBench

open Sorting

namespace Bench

/-- Two values or more that are not all numbers, all texts or all items. The absent value is of no
family, so an array in which it occurs beside another value is mixed. -/
def Mixed (values : Array Value) : Prop :=
  2 ≤ values.size ∧ ¬ ∃ family, ∀ value ∈ values, value.family? = some family

/-- An array is mixed if its list of values is, which is all of its values taken from the front. -/
theorem mixed_iff_front (values : Array Value) :
    Mixed values ↔ 2 ≤ values.size ∧ ¬ ∃ family,
      ∀ value ∈ values.toVector.toList.take values.size, value.family? = some family := by
  have front : values.toVector.toList.take values.size = values.toList :=
    List.take_of_length_le (Nat.le_refl _)
  simp only [Mixed, front, Array.mem_toList_iff]

theorem mixed_iff_span {values : Array Value} (span : Span values.size) (start : span.start = 0)
    (stop : span.stop = values.size) :
    Mixed values ↔ 2 ≤ span.size ∧ ¬ ∃ family,
      Holds (fun value => value.family? = some family) span.start span.stop values.toVector := by
  have holds (family : Value.Family) :
      Holds (fun value => value.family? = some family) span.start span.stop values.toVector ↔
        ∀ value ∈ values, value.family? = some family := by
    rw [Array.forall_mem_iff_forall_getElem]
    exact ⟨fun held k inside => held k inside (by omega) (by omega),
      fun all k inside _ _ => all k inside⟩
  have size : span.size = values.size := by
    unfold Span.size
    omega
  simp only [Mixed, holds, size]

/-- The passes and the partitions that were counted, if work is counted. -/
def rounds (bench : Bench) : Option (Nat × Nat) :=
  bench.tally.map fun tally => (tally.passes, tally.partitions)

theorem exists_clash {outcome : Except Clash Bool} {fault : Fault}
    (refused : outcome.mapError Fault.incomparable = .error fault) :
    ∃ clash, fault = .incomparable clash := by
  cases outcome with
  | ok answer => cases refused
  | error clash => exact ⟨clash, (Except.error.inj refused).symm⟩

/-- A sort of the whole array is decided by its first round. If the array is mixed, the sort ends as
its first round does: it refuses a comparison and has counted neither a pass nor a partition. If
not, both end well. -/
def DecidedBy (bench : Bench) (whole first : Except Fault Unit × Bench) : Prop :=
  (Mixed bench.values ∧ ∃ clash after, after.rounds = bench.rounds ∧
      first = (.error (.incomparable clash), after) ∧
        whole = (.error (.incomparable clash), after)) ∨
    (¬ Mixed bench.values ∧ first.1 = .ok () ∧ whole.1 = .ok ())

/-- A sort that is decided by its first round is so on the bench, if the first round fails only for
refused comparisons and is not counted then. -/
theorem decidedBy_of_perform {bench : Bench}
    {whole first : Vector Value bench.values.size → Tally →
      Outcome Value Fault Unit bench.values.size}
    (decided : (whole bench.values.toVector (bench.tally.getD {})).DecidedBy
      (first bench.values.toVector (bench.tally.getD {})) (Mixed bench.values))
    (refused : ∀ items tally after counted fault, first items tally = .failed after counted fault →
      (∃ clash, fault = .incomparable clash) ∧ counted.passes = tally.passes ∧
        counted.partitions = tally.partitions) :
    bench.DecidedBy (perform bench whole) (perform bench first) := by
  unfold DecidedBy perform
  obtain ⟨mixed, items, counted, fault, failed, ended⟩ | ⟨admitted, well, ended⟩ := decided
  · obtain ⟨⟨clash, rfl⟩, passes, partitions⟩ := refused _ _ _ _ _ failed
    rw [failed, ended]
    refine Or.inl ⟨mixed, clash, _, ?_, rfl, rfl⟩
    unfold rounds
    cases tally : bench.tally with
    | none => rfl
    | some earlier =>
      rw [tally, Option.getD_some] at passes partitions
      simp only [Option.map_some, Outcome.failed, passes, partitions]
  · exact Or.inr ⟨admitted, well, ended⟩

/-- The first pass of the bubble sort over the whole array. -/
def firstPass : Operation Unit := fun bench =>
  perform bench (Bubble.firstPass order bench.values.size (Nat.le_refl _))

/-- The first partition of a quicksort of the whole array. -/
def firstPartition : Operation Unit := fun bench =>
  bench.sortRange 0 (bench.values.size - 1) (Pending.firstPartition order)

/-- The bubble sort is decided by its first pass. A pass compares each value with the one that is
carried, so if it comes to its end, all values are of one family. -/
theorem bubble_decidedBy (bench : Bench) :
    bench.DecidedBy (Algorithm.bubble bench) bench.firstPass := by
  rw [Algorithm.bubble, bubbleSort_inside bench.values.size bench (by omega) (Nat.le_refl _)]
  apply decidedBy_of_perform
  · rw [mixed_iff_front]
    exact Bubble.sort_decidedBy order_kinds _ _ _ _
  · intro items tally after counted fault failed
    obtain ⟨several, sweep⟩ := Bubble.sweep_of_firstPass_failed failed
    obtain ⟨⟨a, b, compared⟩, uncounted⟩ := Bubble.sweep_failed sweep
    exact ⟨exists_clash compared, uncounted⟩

/-- The quicksort over a stack is decided by its first partition, in which every value is compared
with the last one. -/
theorem quickIterative_decidedBy (bench : Bench) :
    bench.DecidedBy (Algorithm.quickIterative bench) bench.firstPartition := by
  obtain ⟨values, tally⟩ := bench
  obtain ⟨few, kept⟩ | ⟨several, outside, _⟩ | ⟨span, ⟨several, _, _, start, stop⟩, sorted⟩ :=
    sortRange_cases 0 ((values.size : Int) - 1) values
  · rw [Algorithm.quickIterative, quickSortIterative, firstPartition, kept, kept]
    have single : ¬ 2 ≤ values.size := by omega
    exact Or.inr ⟨fun mixed => single mixed.1, rfl, rfl⟩
  · exact absurd ⟨by omega, by omega⟩ outside
  · rw [Algorithm.quickIterative, quickSortIterative, firstPartition, sorted, sorted]
    apply decidedBy_of_perform
    · have whole : span.stop = values.size := by omega
      rw [mixed_iff_span span start whole]
      exact Pending.sort_decidedBy order_kinds span _ _
    · intro items tally after counted fault failed
      obtain ⟨several, partition⟩ := Pending.run_of_firstPartition_failed failed
      obtain ⟨⟨a, b, compared⟩, uncounted⟩ := Partition.run_failed partition
      exact ⟨exists_clash compared, uncounted⟩

end Bench

open Bench

/-- The first round of a built-in algorithm. -/
def Algorithm.firstRound (name : Text) : Algorithm :=
  if name = "bubble" then firstPass else firstPartition

namespace Registry

/-- A built-in algorithm is decided by its first round, or it is the recursive quicksort, which
gives up where the other quicksort ends well. -/
theorem sort_decidedBy {name : Text} (known : name ∈ builtIn.entries.map Prod.fst) (bench : Bench) :
    bench.DecidedBy (builtIn.sort name bench) (Algorithm.firstRound name bench) ∨
      ¬ Mixed bench.values ∧ (Algorithm.firstRound name bench).1 = .ok () ∧
        (builtIn.sort name bench).1 = .error tooDeep := by
  unfold sort
  obtain ⟨rfl, found⟩ | ⟨rfl, found⟩ | ⟨rfl, found⟩ | ⟨unknown, _⟩ := builtIn_cases name
  · rw [found]
    exact Or.inl (bubble_decidedBy bench)
  · rw [found]
    obtain ⟨_, same⟩ | ⟨deep, gaveUp⟩ := quickSort_cases 0 (bench.values.size - 1) bench
    · left
      show bench.DecidedBy (Algorithm.quick bench) bench.firstPartition
      rw [show Algorithm.quick bench = Algorithm.quickIterative bench from same]
      exact quickIterative_decidedBy bench
    · -- What goes beyond the deepest level is not mixed, since the other quicksort ends well.
      have completed : (Algorithm.quickIterative bench).1 = .ok () :=
        quickSortIterative_completes 0 (bench.values.size - 1) bench deep
      obtain ⟨_, clash, after, _, _, failed⟩ | ⟨admitted, well, _⟩ := quickIterative_decidedBy bench
      · rw [failed] at completed
        cases completed
      · exact Or.inr ⟨admitted, well, gaveUp⟩
  · rw [found]
    exact Or.inl (quickIterative_decidedBy bench)
  · exact absurd known unknown

/-- All built-in algorithms refuse the same arrays, namely those of two values or more that are not
of one family. They refuse what their first round does, with the same clash and the same bench
left, and have counted neither a pass nor a partition then. What comes through the first round is
not refused.

Proof: the first pass compares neighbours, the first partition everything with the last value.
Either way all values have been compared with one of their own family when the round comes to its
end, and from then on no comparison can be refused. -/
theorem sort_refuses {name : Text} (known : name ∈ builtIn.entries.map Prod.fst) (bench : Bench) :
    ((∃ clash, (builtIn.sort name bench).1 = .error (.incomparable clash)) ↔ Mixed bench.values) ∧
      (∀ clash after, builtIn.sort name bench = (.error (.incomparable clash), after) ↔
        Algorithm.firstRound name bench = (.error (.incomparable clash), after)) ∧
      ∀ clash after, builtIn.sort name bench = (.error (.incomparable clash), after) →
        after.rounds = bench.rounds := by
  obtain (⟨mixed, clash, after, uncounted, first, ended⟩ | ⟨admitted, well, ended⟩) |
    ⟨admitted, well, ended⟩ := sort_decidedBy known bench
  · rw [first, ended]
    refine ⟨iff_of_true ⟨clash, rfl⟩ mixed, fun _ _ => Iff.rfl, ?_⟩
    intro other left same
    cases same
    exact uncounted
  all_goals
    refine ⟨iff_of_false ?_ admitted, fun clash after => iff_of_false ?_ ?_, ?_⟩
    · rintro ⟨clash, refused⟩
      rw [ended] at refused
      cases refused
    · intro refused
      rw [refused] at ended
      cases ended
    · intro refused
      rw [refused] at well
      cases well
    · intro clash after refused
      rw [refused] at ended
      cases ended

/-- A number, one that is not a number, the absent value and a text. -/
def scattered : Bench :=
  Bench.ofList [.integer 1, .real (.nan 0), .absent, .text "x"]

/-- The bubble sort comes to the absent value by way of the one that is not a number, the quicksort
begins with the text, and both refuse. -/
theorem sort_refuses_scattered :
    (Text.ofString "bubble" ∈ builtIn.entries.map Prod.fst ∧
        Text.ofString "quick" ∈ builtIn.entries.map Prod.fst) ∧
      Mixed scattered.values ∧
      builtIn.sort "bubble" scattered =
        (.error (.incomparable ⟨.greater, "float", "NoneType"⟩),
          { scattered with tally := some { comparisons := 2 } }) ∧
      builtIn.sort "quick" scattered =
        (.error (.incomparable ⟨.notGreater, "int", "str"⟩),
          { scattered with tally := some { comparisons := 1, maxDepth := 1 } }) := by
  have bubble : Text.ofString "bubble" ∈ builtIn.entries.map Prod.fst := by decide
  have quick : Text.ofString "quick" ∈ builtIn.entries.map Prod.fst := by decide
  have refused := ((sort_refuses bubble scattered).2.1 _ _).mpr rfl
  refine ⟨⟨bubble, quick⟩, (sort_refuses bubble scattered).1.mp ⟨_, congrArg Prod.fst refused⟩,
    refused, ?_⟩
  exact ((sort_refuses quick scattered).2.1 _ _).mpr rfl

end Registry

end SortBench
