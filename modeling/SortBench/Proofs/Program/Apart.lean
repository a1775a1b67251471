import SortBench.Proofs.Program.Instrumented

/-!
# Tasks that touch nothing in common

A task reads and writes the positions that it touches and no others. So what it makes of them does
not depend on the rest of the array, and it leaves the rest as it is. Two tasks that have no
position in common therefore do the same in either order, also when one of them or both fail half
way: each has the outcome that it would have alone, and the array and the tally are the same in the
end.
-/

namespace SortBench

open Sorting Bench

namespace Task

/-- The script of a task keeps to the positions that the task touches, all of them in the array. For
a quicksort this is the whole range, whichever of its parts the divisions visit. -/
theorem script_keeps (length : Nat) (task : Task) :
    (task.script length).Keeps (fun p => (0 ≤ p ∧ p < length) ∧ task.Touches p.toNat)
      (fun _ => True) fun _ => True := by
  have bubble {positions : Int → Prop} (size : Int)
      (within : size ≤ length → ∀ p, 0 ≤ p ∧ p < size → positions p) :
      (bubbleScript length size).Keeps positions (fun _ => True) fun _ => True :=
    checked_keeps fun inside => (Addressed.bubble_keeps order size _).mono (within inside.2)
      (fun _ _ => trivial) fun _ _ => trivial
  have range {positions : Int → Prop} {low high : Int} {inner : Script Value Fault Unit}
      {errors : Fault → Prop}
      (keeps : inner.Keeps (fun p => low ≤ p ∧ p ≤ high) errors fun _ => True)
      (within : 0 ≤ low ∧ high < length → ∀ p, low ≤ p ∧ p ≤ high → positions p) :
      (rangeScript length low high inner).Keeps positions (fun _ => True) fun _ => True := by
    unfold rangeScript
    split
    · trivial
    · exact checked_keeps fun inside => keeps.mono (within inside) (fun _ _ => trivial)
        fun _ _ => trivial
  have quick (low high : Int) : (Addressed.quick order tooDeep deepestLevel 1 low high).Keeps
      (fun p => low ≤ p ∧ p ≤ high) (fun fault => fault = tooDeep ∨ order.Refuses fault)
      fun _ => True :=
    Addressed.quick_keeps order tooDeep _ _ _ _ fun _ => ⟨Int.le_refl _, Int.le_refl _⟩
  have stack (turns : Nat) (low high : Int) :
      (Addressed.drain order tooDeep turns [(low, high, 1)]).Keeps
        (fun p => low ≤ p ∧ p ≤ high) (fun fault => fault = tooDeep ∨ order.Refuses fault)
        fun _ => True :=
    Addressed.drain_keeps order tooDeep _ _ (List.forall_mem_singleton.mpr
      fun _ => ⟨Int.le_refl _, Int.le_refl _⟩)
  have answered {γ : Type} {positions : Int → Prop} {inner : Script Value Fault γ}
      {answer : γ → Option Nat} (keeps : inner.Keeps positions (fun _ => True) fun _ => True) :
      (inner.bind fun given => .done (answer given)).Keeps positions (fun _ => True)
        fun _ => True :=
    keeps.bind fun _ _ => trivial
  cases task with
  | swap a b =>
    refine answered ?_
    refine checked_keeps fun first => checked_keeps fun second => .exchange ?_ ?_ trivial
    · exact ⟨first, Or.inl (Int.toNat_of_nonneg first.1)⟩
    · exact ⟨second, Or.inr (Int.toNat_of_nonneg second.1)⟩
  | bubbleSort size =>
    refine answered (bubble size ?_)
    intro fits p inside
    simp only [Touches]
    omega
  | partition low high =>
    refine answered ?_
    unfold partitionScript
    split
    · trivial
    case isFalse some =>
      have keeps := Addressed.partition_keeps order (Int.not_lt.mp some)
      refine checked_keeps fun inside => Script.Keeps.bind
        (keeps.mono ?_ (fun _ _ => trivial) fun _ found => found) fun _ _ => trivial
      intro p within
      simp only [Touches]
      omega
  | quickSort low high =>
    refine answered (range (quick low high) ?_)
    intro inside p within
    simp only [Touches]
    omega
  | quickSortIterative low high =>
    refine answered (range (stack _ low high) ?_)
    intro inside p within
    simp only [Touches]
    omega
  | sort algorithm =>
    refine answered ?_
    unfold algorithmScript
    split_ifs
    · exact bubble length fun _ p inside => ⟨inside, trivial⟩
    · exact range (quick 0 (length - 1)) fun _ p within => ⟨by omega, trivial⟩
    · exact range (stack _ 0 (length - 1)) fun _ p within => ⟨by omega, trivial⟩
    · trivial

theorem effect_toArray {n : Nat} (task : Task) (items : Vector Value n) :
    task.effect items.toArray =
      ⟨((task.script n).run tooDeep items {}).result,
        ((task.script n).run tooDeep items {}).items.toArray,
        ((task.script n).run tooDeep items {}).tally⟩ := by
  obtain ⟨values, size⟩ := items
  subst size
  rfl

/-- A task leaves as many items as there were. -/
theorem size_effect (task : Task) (values : Array Value) :
    (task.effect values).values.size = values.size :=
  (((task.script values.size).run tooDeep values.toVector {}).items).size_toArray

/-- A task leaves the items at positions that it does not touch. -/
theorem effect_elsewhere (task : Task) (values : Array Value) {k : Nat}
    (untouched : ¬ task.Touches k) : (task.effect values).values[k]? = values[k]? := by
  have conserves := (task.perform_conserves { values, tally := none }).elsewhere k untouched
  rw [perform_effect] at conserves
  exact conserves

/-- What a task makes of the positions that it touches depends on these alone. With the lemma before
it this is locality in both directions: nothing outside is changed, and nothing outside is read. -/
theorem effect_alike (task : Task) {values other : Array Value} (size : other.size = values.size)
    (same : ∀ k, task.Touches k → values[k]? = other[k]?) :
    (task.effect values).outcome = (task.effect other).outcome ∧
      (task.effect values).work = (task.effect other).work ∧
      ∀ k, task.Touches k →
        (task.effect values).values[k]? = (task.effect other).values[k]? := by
  obtain ⟨items, rfl⟩ : ∃ items : Vector Value values.size, items.toArray = other :=
    ⟨⟨other, size⟩, rfl⟩
  have sameAt : Script.SameAt
      (fun p => (0 ≤ p ∧ p < values.size) ∧ task.Touches p.toNat) values.toVector items := by
    intro k inside touched
    have found := same k (by simpa using touched.2)
    rw [Vector.getElem?_toArray, Vector.getElem?_eq_getElem inside,
      Array.getElem?_eq_getElem inside] at found
    exact Option.some.inj found
  have alike := (task.script_keeps values.size).run_alike (fun p kept => kept.1) tooDeep sameAt {}
  rw [effect_toArray task items]
  refine ⟨alike.result, alike.tally, fun k touched => ?_⟩
  show ((task.script values.size).run tooDeep values.toVector {}).items.toArray[k]? = _
  rw [Vector.getElem?_toArray, Vector.getElem?_toArray]
  by_cases inside : k < values.size
  · rw [Vector.getElem?_eq_getElem inside, Vector.getElem?_eq_getElem inside,
      alike.items k inside (by simp [touched, inside])]
  · rw [Vector.getElem?_eq_none (Nat.le_of_not_lt inside),
      Vector.getElem?_eq_none (Nat.le_of_not_lt inside)]

/-- Two tasks have no position in common. -/
def Apart (first second : Task) : Prop :=
  ∀ k, first.Touches k → ¬ second.Touches k

/-- Tasks apart are so in either order. -/
theorem Apart.symm {first second : Task} (apart : first.Apart second) : second.Apart first :=
  fun k second first => apart k first second

/-- After a task apart from it, a task has the effect that it has alone on the positions that it
touches. -/
theorem Apart.effect_after {first second : Task} (apart : first.Apart second)
    (values : Array Value) :
    (second.effect (first.effect values).values).outcome = (second.effect values).outcome ∧
      (second.effect (first.effect values).values).work = (second.effect values).work ∧
      ∀ k, second.Touches k →
        (second.effect (first.effect values).values).values[k]? =
          (second.effect values).values[k]? :=
  second.effect_alike (first.size_effect values).symm fun _ touched =>
    first.effect_elsewhere values (apart.symm _ touched)

/-- Tasks apart leave one array in either order. Each position is touched by one of them at most,
and is looked at in these three cases. -/
theorem Apart.values_comm {first second : Task} (apart : first.Apart second)
    (values : Array Value) :
    (second.effect (first.effect values).values).values =
      (first.effect (second.effect values).values).values := by
  refine Array.ext_getElem? fun k => ?_
  by_cases firstTouches : first.Touches k
  · rw [effect_elsewhere second _ (apart k firstTouches),
      (apart.symm.effect_after values).2.2 k firstTouches]
  · rw [effect_elsewhere first _ firstTouches]
    by_cases secondTouches : second.Touches k
    · exact (apart.effect_after values).2.2 k secondTouches
    · rw [effect_elsewhere second _ secondTouches, effect_elsewhere second _ secondTouches,
        effect_elsewhere first _ firstTouches]

/-- Tasks apart commute: on every bench, whatever was counted before, each has the outcome that it
has alone, and in either order they leave the same bench. The tallies agree because work is added
up, and addition does not mind the order. -/
theorem Apart.perform_comm {first second : Task} (apart : first.Apart second) (bench : Bench) :
    (first.perform .builtIn (second.perform .builtIn bench).2).1 =
        (first.perform .builtIn bench).1 ∧
      (second.perform .builtIn (first.perform .builtIn bench).2).1 =
        (second.perform .builtIn bench).1 ∧
      (second.perform .builtIn (first.perform .builtIn bench).2).2 =
        (first.perform .builtIn (second.perform .builtIn bench).2).2 := by
  obtain ⟨values, tally⟩ := bench
  obtain ⟨secondOutcome, secondWork, _⟩ := apart.effect_after values
  obtain ⟨firstOutcome, firstWork, _⟩ := apart.symm.effect_after values
  simp only [perform_effect]
  refine ⟨firstOutcome, secondOutcome, ?_⟩
  rw [apart.values_comm values, secondWork, firstWork]
  cases tally with
  | none => rfl
  | some earlier => simp only [Option.map_some, Tally.merge_right_comm]

/-- The range of a task, by its first and last position, if it has one of its own. The bubble sort
has the first `size` positions. -/
def range? : Task → Option (Int × Int)
  | bubbleSort size => some (0, size - 1)
  | partition low high => some (low, high)
  | quickSort low high => some (low, high)
  | quickSortIterative low high => some (low, high)
  | swap _ _ => none
  | sort _ => none

/-- A task touches positions of its range only. -/
theorem inside_of_range? {task : Task} {low high : Int} (range : task.range? = some (low, high))
    {k : Nat} (touched : task.Touches k) : low ≤ k ∧ k ≤ high := by
  cases task with
  | bubbleSort size =>
    cases range
    simp only [Touches] at touched
    omega
  | partition | quickSort | quickSortIterative =>
    cases range
    exact touched
  | swap | sort => cases range

/-- Operations on disjoint ranges commute: bubble sorts, partitions and quicksorts of either kind,
on every array and from every tally, valid ranges or not. If the range of one ends before that of
the other begins, then in either order each has the outcome that it has alone, be it a position,
nothing or a fault, and the array and the tally are the same in the end.

Failures are included, and with them the half of the work that was done before. This is where a
model of operations as functions from lists to lists would say nothing.

Proof: a task neither reads nor writes outside of its range, which is read off its script. The rest
is a comparison position by position, and an addition of two tallies. -/
theorem ranges_commute {first second : Task} {low high further last : Int}
    (firstRange : first.range? = some (low, high))
    (secondRange : second.range? = some (further, last)) (before : high < further)
    (bench : Bench) :
    (first.perform .builtIn (second.perform .builtIn bench).2).1 =
        (first.perform .builtIn bench).1 ∧
      (second.perform .builtIn (first.perform .builtIn bench).2).1 =
        (second.perform .builtIn bench).1 ∧
      (second.perform .builtIn (first.perform .builtIn bench).2).2 =
        (first.perform .builtIn (second.perform .builtIn bench).2).2 := by
  have apart : first.Apart second := by
    intro k firstTouches secondTouches
    have early := inside_of_range? firstRange firstTouches
    have late := inside_of_range? secondRange secondTouches
    omega
  exact apart.perform_comm bench

/-- An array whose first three items can be sorted and whose last two cannot be compared, after
earlier work. -/
def halfComparable : Bench :=
  { values := #[.integer 3, .integer 1, .integer 2, .text "x", .integer 5]
    tally := some { comparisons := 7, maxDepth := 4 } }

/-- The partition of the first three items and the sort of the last two, which fails, commute. -/
theorem ranges_commute_halfComparable :
    ((partition 0 2).range? = some (0, 2) ∧ (quickSort 3 4).range? = some (3, 4) ∧ (2 : Int) < 3) ∧
      ((partition 0 2).perform .builtIn ((quickSort 3 4).perform .builtIn halfComparable).2).1 =
        .ok (some 1) ∧
      ((quickSort 3 4).perform .builtIn ((partition 0 2).perform .builtIn halfComparable).2).1 =
        .error (.incomparable ⟨.notGreater, "str", "int"⟩) ∧
      ((quickSort 3 4).perform .builtIn ((partition 0 2).perform .builtIn halfComparable).2).2 =
        ((partition 0 2).perform .builtIn
          ((quickSort 3 4).perform .builtIn halfComparable).2).2 := by
  have before : (2 : Int) < 3 := by decide
  obtain ⟨first, second, same⟩ :=
    ranges_commute (show (partition 0 2).range? = some (0, 2) from rfl)
      (show (quickSort 3 4).range? = some (3, 4) from rfl) before halfComparable
  exact ⟨⟨rfl, rfl, before⟩, first.trans rfl, second.trans rfl, same⟩

end Task

end SortBench
