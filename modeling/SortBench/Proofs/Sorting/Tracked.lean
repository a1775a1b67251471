import SortBench.Proofs.Sorting.Addressed
import SortBench.Proofs.Sorting.Counting

/-!
# What a run depends on

A script never reads the tally, so what it does with the items and how it ends is the same with a
tally and without one. If moreover each of its steps that count adds to the tally whatever it holds,
then the tally from any start is that start merged with the tally from nothing. All loops of the
sorts are such scripts.

In the same way a run does not depend on the items at positions that the script keeps away from: on
two arrays that agree at the positions it keeps to, it ends alike, counts alike and leaves arrays
that agree there.
-/

namespace SortBench.Sorting

variable {α ε β γ : Type} {n : Nat}

namespace Tally

theorem merge_passed (first second : Tally) :
    first.merge second.passed = (first.merge second).passed :=
  rfl

theorem merge_partitioned (first second : Tally) :
    first.merge second.partitioned = (first.merge second).partitioned :=
  rfl

/-- In whichever order two parts of the work are done, their tally is the same. So the tally says
nothing about the order of the tasks on a bench. -/
theorem merge_comm (first second : Tally) : first.merge second = second.merge first := by
  simp only [merge, Nat.add_comm, Nat.max_comm]

theorem merge_right_comm (earlier first second : Tally) :
    (earlier.merge first).merge second = (earlier.merge second).merge first := by
  rw [merge_assoc, merge_assoc, merge_comm first second]

end Tally

namespace Script

/-- Each step of the script that counts adds to the tally, whatever that holds. A script that read
its counters and acted on them would not be of this kind. -/
def Additive : Script α ε β → Prop
  | done _ => True
  | failed _ => True
  | read _ next => ∀ item, (next item).Additive
  | write _ _ next => next.Additive
  | count change next =>
    (∀ earlier tally : Tally, change (earlier.merge tally) = earlier.merge (change tally)) ∧
      next.Additive

theorem Additive.bind {script : Script α ε β} {next : β → Script α ε γ} (first : script.Additive)
    (second : ∀ answer, (next answer).Additive) : (script.bind next).Additive := by
  induction script with
  | done answer => exact second answer
  | failed error => trivial
  | read position rest inductionHypothesis =>
    exact fun item => inductionHypothesis item (first item)
  | write position item rest inductionHypothesis => exact inductionHypothesis first
  | count change rest inductionHypothesis => exact ⟨first.1, inductionHypothesis first.2⟩

theorem Additive.ask {asked : Except ε Bool} {next : Bool → Script α ε β}
    (later : ∀ answer, (next answer).Additive) : (ask asked next).Additive := by
  cases asked with
  | ok answer => exact later answer
  | error error => trivial

theorem Additive.exchange {a b : Int} {next : Script α ε β} (later : next.Additive) :
    (exchange a b next).Additive :=
  fun _ _ => later

/-- A script that only adds counts on top of an earlier tally: the same items, the same end, and the
work of a fresh run merged with what was there. -/
theorem Additive.run_onTop {script : Script α ε β} (additive : script.Additive) (lost : ε)
    (items : Vector α n) (earlier tally : Tally) :
    script.run lost items (earlier.merge tally) =
      (script.run lost items tally).onTop earlier := by
  induction script generalizing items tally with
  | done answer => rfl
  | failed error => rfl
  | read position rest inductionHypothesis =>
    simp only [run]
    cases address? n position with
    | none => rfl
    | some index => exact inductionHypothesis _ (additive _) ..
  | write position item rest inductionHypothesis =>
    simp only [run]
    cases address? n position with
    | none => rfl
    | some index => exact inductionHypothesis additive ..
  | count change rest inductionHypothesis =>
    simp only [run, additive.1]
    exact inductionHypothesis additive.2 ..

/-- Two arrays hold the same items at positions of a class. -/
def SameAt (positions : Int → Prop) (items other : Vector α n) : Prop :=
  ∀ k (_ : k < n), positions k → items[k] = other[k]

/-- Writing the same item to both keeps arrays the same at positions of a class, whether or not the
position written is one of these. -/
theorem SameAt.set {positions : Int → Prop} {items other : Vector α n}
    (same : SameAt positions items other) {i : Nat} (inside : i < n) (item : α) :
    SameAt positions (items.set i item) (other.set i item) := by
  intro k position member
  rw [Vector.getElem_set, Vector.getElem_set]
  split
  · rfl
  · exact same k position member

/-- Two steps end alike, count alike and leave the same items at positions of a class. What they
leave elsewhere may differ, and does where the arrays did. -/
structure Alike (positions : Int → Prop) (one other : Outcome α ε β n) : Prop where
  /-- They answer alike or fail alike. -/
  result : one.result = other.result
  /-- They leave the same tally. -/
  tally : one.tally = other.tally
  /-- They leave the same items at the positions. -/
  items : SameAt positions one.items other.items

/-- A script that keeps to positions of the array runs alike on arrays that are the same there. What
stands elsewhere can neither be seen nor be changed by it.

Proof: by induction on the script. Each read gives both runs the same item, so they take the same
branch, and each write keeps the arrays the same. -/
theorem Keeps.run_alike {positions : Int → Prop} {errors : ε → Prop} {answers : β → Prop}
    {script : Script α ε β} (keeps : script.Keeps positions errors answers)
    (inside : ∀ position, positions position → 0 ≤ position ∧ position < n) (lost : ε)
    {items other : Vector α n} (same : SameAt positions items other) (tally : Tally) :
    Alike positions (script.run lost items tally) (script.run lost other tally) := by
  induction script generalizing items other tally with
  | done answer => exact ⟨rfl, rfl, same⟩
  | failed error => exact ⟨rfl, rfl, same⟩
  | read position rest inductionHypothesis =>
    obtain ⟨lower, upper⟩ := inside position keeps.1
    obtain ⟨k, rfl⟩ := Int.eq_ofNat_of_zero_le lower
    have position : k < n := Int.ofNat_lt.mp upper
    rw [run_read lost items tally rfl position, run_read lost other tally rfl position,
      same k position keeps.1]
    exact inductionHypothesis _ (keeps.2 _) same tally
  | write position item rest inductionHypothesis =>
    obtain ⟨lower, upper⟩ := inside position keeps.1
    obtain ⟨k, rfl⟩ := Int.eq_ofNat_of_zero_le lower
    have position : k < n := Int.ofNat_lt.mp upper
    rw [run_write lost items tally rfl position, run_write lost other tally rfl position]
    exact inductionHypothesis keeps.2 (same.set position item) tally
  | count change rest inductionHypothesis => exact inductionHypothesis keeps same (change tally)

end Script

namespace Addressed

open Script

variable (order : Comparison α ε) (exhausted : ε)

/-- The scan only adds to the tally, and so do all that follow below: no step of any algorithm looks
at what was counted. -/
theorem scan_additive (pivot : α) (remaining : Nat) (i j : Int) :
    (scan order pivot remaining i j).Additive := by
  induction remaining generalizing i j with
  | zero => trivial
  | succ remaining inductionHypothesis =>
    refine ⟨fun _ _ => (Tally.merge_compared ..).symm, fun item => .ask fun notGreater => ?_⟩
    cases notGreater with
    | true => exact .exchange ⟨fun _ _ => (Tally.merge_swapped ..).symm, inductionHypothesis ..⟩
    | false => exact inductionHypothesis ..

theorem partition_additive (low high : Int) :
    (partition order low high : Script α ε Int).Additive := by
  refine fun pivot => (scan_additive order pivot _ _ _).bind fun i => .exchange ?_
  exact ⟨fun _ _ => (Tally.merge_swapped ..).symm, fun _ _ => (Tally.merge_partitioned ..).symm,
    trivial⟩

theorem quick_additive (room depth : Nat) (low high : Int) :
    (quick order exhausted room depth low high).Additive := by
  induction room generalizing depth low high with
  | zero =>
    rw [quick]
    split <;> trivial
  | succ room inductionHypothesis =>
    rw [quick]
    split
    · refine ⟨fun _ _ => (Tally.merge_reached ..).symm, ?_⟩
      refine (partition_additive order low high).bind fun pivot => ?_
      exact (inductionHypothesis ..).bind fun _ => inductionHypothesis ..
    · trivial

theorem drain_additive (turns : Nat) (stack : List (Int × Int × Nat)) :
    (drain order exhausted turns stack).Additive := by
  induction turns generalizing stack with
  | zero => cases stack <;> trivial
  | succ turns inductionHypothesis =>
    cases stack with
    | nil => trivial
    | cons top rest =>
      obtain ⟨low, high, depth⟩ := top
      rw [drain]
      split
      · refine ⟨fun _ _ => (Tally.merge_reached ..).symm, ?_⟩
        exact (partition_additive order low high).bind fun pivot => inductionHypothesis _
      · exact inductionHypothesis rest

theorem sweep_additive (pairs : Nat) (i : Int) (exchanged : Bool) :
    (sweep order pairs i exchanged).Additive := by
  induction pairs generalizing i exchanged with
  | zero => trivial
  | succ pairs inductionHypothesis =>
    refine ⟨fun _ _ => (Tally.merge_compared ..).symm, fun first second =>
      .ask fun greater => ?_⟩
    cases greater with
    | true => exact .exchange ⟨fun _ _ => (Tally.merge_swapped ..).symm, inductionHypothesis ..⟩
    | false => exact inductionHypothesis ..

theorem bubble_additive (size : Int) (limit : Nat) :
    (bubble order size limit : Script α ε Unit).Additive := by
  rw [bubble]
  split
  · trivial
  · induction limit with
    | zero => trivial
    | succ limit inductionHypothesis =>
      refine (sweep_additive order _ 0 false).bind fun exchanged => ?_
      refine ⟨fun _ _ => (Tally.merge_passed ..).symm, ?_⟩
      cases exchanged with
      | true => exact inductionHypothesis
      | false => trivial

end Addressed

end SortBench.Sorting
