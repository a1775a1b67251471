import SortBench.Proofs.Bench.Ordered
import SortBench.Proofs.Bench.Verdicts
import SortBench.Proofs.Program.Conservation
import SortBench.Proofs.Program.Runs

/-!
# The built-in algorithms and their judge

The built-in algorithms sort ordered values of one family, and the judge accepts what they leave:
it holds the given values, since items are only exchanged, and it is ascending. The recursive
quicksort alone may give up, and it does so exactly beyond the deepest level.
-/

namespace SortBench

open Bench

/-- A range that is the whole array ascends when the list does. -/
theorem Bench.AscendingBetween.pairwise {values : Array Value}
    (ascending : AscendingBetween 0 ((values.size : Int) - 1) values) :
    values.toList.Pairwise fun left right => left.le? right = .ok true := by
  rw [List.pairwise_iff_getElem]
  intro i j first second before
  rw [Array.length_toList] at first second
  exact ascending i j _ _ (by omega) before (by omega) (Array.getElem?_eq_getElem first)
    (Array.getElem?_eq_getElem second)

/-- A list that was only rearranged and is ascending passes the judge. Exact rearrangement is more
than the judge asks, which counts values without regard to spelling. -/
theorem Bench.verifySorted_of_perm {given result : List Value} (same : result.Perm given)
    (ascending : result.Pairwise fun left right => left.le? right = .ok true) :
    verifySorted given result = .ok () := by
  rw [verifySorted_eq_ok_iff]
  refine ⟨same.symm.map Value.mark, ?_⟩
  exact (ascending.imp fun compared => Value.gt?_of_le? compared).isChain

namespace Registry

/-- The levels of a list under quicksort go beyond the deepest one, and the algorithm is the one
that gives up in that case. -/
def GivesUp (name : Text) (values : List Value) : Prop :=
  name = "quick" ∧ deepestLevel < nesting 0 ((values.length : Int) - 1) values.toArray

/-- A built-in algorithm gives up, or it ends well and leaves ordered values of a family ascending,
whether work is counted or not. All three algorithms are covered, so that what follows need not know
which it is. -/
theorem builtIn_sort_ascending {family : Value.Family} {name : Text}
    (known : name ∈ builtIn.entries.map Prod.fst) (bench : Bench) {values : List Value}
    (held : bench.values = values.toArray)
    (ordered : ∀ value ∈ values, Value.IsOrdered family value) :
    (GivesUp name values ∧ (builtIn.sort name bench).1 = .error tooDeep) ∨
      ¬ GivesUp name values ∧
        ∃ after, builtIn.sort name bench = (.ok (), after) ∧
          AscendingBetween 0 ((values.length : Int) - 1) after.values := by
  obtain ⟨_, tally⟩ := bench
  subst held
  have orderedBetween : OrderedBetween family 0 ((values.length : Int) - 1) values.toArray := by
    intro k value _ _ found
    rw [List.getElem?_toArray] at found
    exact ordered value (List.mem_of_getElem? found)
  have inside : (0 : Int) < (values.length : Int) - 1 →
      (0 : Int) ≤ 0 ∧ (values.length : Int) - 1 < values.toArray.size := by
    intro _
    simp
  unfold sort GivesUp
  obtain ⟨rfl, found⟩ | ⟨rfl, found⟩ | ⟨rfl, found⟩ | ⟨unknown, _⟩ := builtIn_cases name
  · rw [found]
    refine Or.inr ⟨fun quick => absurd quick.1 (by decide), ?_⟩
    exact bubbleSort_ascending _ _ (by simp) orderedBetween
  · rw [found]
    obtain ⟨deep, ended⟩ | ⟨shallow, sorted⟩ :=
      quickSort_ascending 0 _ { values := values.toArray, tally } inside orderedBetween
    · exact Or.inl ⟨⟨rfl, deep⟩, ended⟩
    · exact Or.inr ⟨fun deep => absurd deep.2 (Nat.not_lt_of_le shallow), sorted⟩
  · rw [found]
    refine Or.inr ⟨fun quick => absurd quick.1 (by decide), ?_⟩
    exact quickSortIterative_ascending 0 _ { values := values.toArray, tally } inside
      orderedBetween
  · exact absurd known unknown

theorem mem_names {registry : Registry} {name : Text} :
    name ∈ registry.names ↔ name ∈ registry.entries.map Prod.fst :=
  (List.mergeSort_perm _ _).mem_iff

theorem find?_of_unknown {registry : Registry} {name : Text}
    (unknown : name ∉ registry.entries.map Prod.fst) : registry.find? name = none := by
  unfold find?
  rw [List.lookup_eq_none_iff]
  intro entry member
  rw [bne_iff_ne]
  rintro rfl
  exact unknown (List.mem_map_of_mem member)

/-- An algorithm that is not registered is refused, with the names of those that are. The bench is
not touched. -/
theorem sort_of_unknown {registry : Registry} {name : Text}
    (unknown : name ∉ registry.entries.map Prod.fst) (bench : Bench) :
    registry.sort name bench =
      (.error (.precondition (.unknownAlgorithm name registry.names)), bench) := by
  rw [sort, find?_of_unknown unknown]
  rfl

/-- A judged sort by an algorithm that is not registered is refused likewise. -/
theorem sortJudged_of_unknown {registry : Registry} {name : Text}
    (unknown : name ∉ registry.entries.map Prod.fst) (values : List Value) :
    registry.sortJudged name values =
      .error (.precondition (.unknownAlgorithm name registry.names)) := by
  rw [sortJudged, sort_of_unknown unknown]

/-- A built-in algorithm that ended well on ordered values of a family has left a rearrangement of
them that ascends. -/
theorem perm_and_pairwise_of_sort {family : Value.Family} {name : Text} {bench after : Bench}
    {values : List Value} (held : bench.values = values.toArray)
    (ordered : ∀ value ∈ values, Value.IsOrdered family value)
    (sorted : builtIn.sort name bench = (.ok (), after)) :
    after.values.toList.Perm values ∧
      after.values.toList.Pairwise fun left right => left.le? right = .ok true := by
  by_cases known : name ∈ builtIn.entries.map Prod.fst
  · obtain ⟨_, failed⟩ | ⟨_, result, ended, ascending⟩ :=
      builtIn_sort_ascending known bench held ordered
    · rw [sorted] at failed
      cases failed
    · obtain rfl : result = after := congrArg Prod.snd (ended.symm.trans sorted)
      have conserved := sort_conserves name bench
      rw [sorted, held] at conserved
      have same : result.values.toList.Perm values := conserved.perm
      have size : result.values.size = values.length := by simpa using same.length_eq
      exact ⟨same, Bench.AscendingBetween.pairwise (size ▸ ascending)⟩
  · rw [sort_of_unknown known] at sorted
    cases sorted

/-- A built-in algorithm gives up, or what it makes of ordered values of a family passes the judge.
So the judge never rejects a built-in algorithm on such values; what it guards against are the
algorithms that others register. -/
theorem builtIn_sortJudged {family : Value.Family} {name : Text}
    (known : name ∈ builtIn.entries.map Prod.fst) (values : List Value)
    (ordered : ∀ value ∈ values, Value.IsOrdered family value) :
    (GivesUp name values ∧ builtIn.sortJudged name values = .error tooDeep) ∨
      ¬ GivesUp name values ∧
        ∃ after, builtIn.sortJudged name values = .ok after ∧ after.values.toList.Perm values ∧
          after.values.toList.Pairwise fun left right => left.le? right = .ok true := by
  obtain ⟨gaveUp, ended⟩ | ⟨not, after, sorted, _⟩ :=
    builtIn_sort_ascending known (Bench.ofList values) rfl ordered
  · refine Or.inl ⟨gaveUp, ?_⟩
    unfold sortJudged
    split
    case h_1 failed =>
      rw [failed] at ended
      rw [Except.error.inj ended]
    case h_2 completed =>
      rw [completed] at ended
      cases ended
  · obtain ⟨same, ascending⟩ := perm_and_pairwise_of_sort rfl ordered sorted
    refine Or.inr ⟨not, after, ?_, same, ascending⟩
    exact sortJudged_eq_ok_iff.mpr ⟨sorted, Bench.verifySorted_of_perm same ascending⟩

end Registry

end SortBench
