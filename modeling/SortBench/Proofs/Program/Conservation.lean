import SortBench.Program.Task
import SortBench.Proofs.Bench.Conservation
import SortBench.Proofs.Program.Names

/-!
# Tasks conserve the items

Whatever tasks are performed one after another, and however each of them ends, the bench holds
the items that it held at first, each once, and each task leaves those outside its range where
they were. The range is read off the arguments as they were given, whether they are valid or
not.
-/

namespace SortBench

open Bench

/-- The built-in algorithms may touch every position, and conserve the items. -/
theorem Registry.sort_conserves (name : Text) (bench : Bench) :
    Conserves (fun _ => True) bench.values (builtIn.sort name bench).2.values := by
  unfold Registry.sort
  obtain ⟨_, found⟩ | ⟨_, found⟩ | ⟨_, found⟩ | ⟨_, found⟩ := Registry.builtIn_cases name
  · rw [found]
    exact (bubbleSort_conserves ..).widen fun _ _ => trivial
  · rw [found]
    exact (quickSort_conserves ..).widen fun _ _ => trivial
  · rw [found]
    exact (quickSortIterative_conserves ..).widen fun _ _ => trivial
  · rw [found]
    exact .nothing _ _

namespace Task

/-- The positions that a task may touch. A task that is refused touches none of them. -/
def Touches : Task → Nat → Prop
  | swap a b, k => k = a ∨ k = b
  | bubbleSort size, k => k < size
  | partition low high, k => low ≤ k ∧ k ≤ high
  | quickSort low high, k => low ≤ k ∧ k ≤ high
  | quickSortIterative low high, k => low ≤ k ∧ k ≤ high
  | sort _, _ => True

/-- A task conserves the items and touches its own positions only, however it ends. -/
theorem perform_conserves (task : Task) (bench : Bench) :
    Conserves task.Touches bench.values (task.perform .builtIn bench).2.values := by
  cases task with
  | swap a b => exact swap_conserves a b bench
  | bubbleSort size => exact bubbleSort_conserves size bench
  | partition low high => exact partition_conserves low high bench
  | quickSort low high => exact quickSort_conserves low high bench
  | quickSortIterative low high => exact quickSortIterative_conserves low high bench
  | sort algorithm => exact Registry.sort_conserves algorithm bench

/-- The bench after tasks that are performed one after another, whether they fail or not. -/
def performAll (registry : Registry) (tasks : List Task) (bench : Bench) : Bench :=
  tasks.foldl (fun current task => (task.perform registry current).2) bench

/-- Tasks one after another keep the items that were there at first. That is an induction on the
tasks with one step lemma for all of them. -/
theorem performAll_perm (tasks : List Task) (bench : Bench) :
    (performAll .builtIn tasks bench).values.toList.Perm bench.values.toList := by
  induction tasks generalizing bench with
  | nil => exact .refl _
  | cons task rest inductionHypothesis =>
    exact (inductionHypothesis _).trans (task.perform_conserves bench).perm

/-- After any tasks and one more, each of which may have failed, the bench holds the items that it
held at first, each once, and the last task has left the items outside its range where they were. So
no sequence of calls, right or wrong, can lose an item or make two of one.

Proof: an array is changed by exchanges only, and each exchange is within the range of its task. -/
theorem run_conserves (earlier : List Task) (task : Task) (bench : Bench) :
    (performAll .builtIn (earlier ++ [task]) bench).values.toList.Perm bench.values.toList ∧
      ∀ k, ¬ task.Touches k →
        (performAll .builtIn (earlier ++ [task]) bench).values[k]? =
          (performAll .builtIn earlier bench).values[k]? := by
  refine ⟨performAll_perm _ bench, ?_⟩
  rw [performAll, List.foldl_append]
  exact (task.perform_conserves _).elsewhere

end Task

end SortBench
