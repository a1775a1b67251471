import Mathlib.Data.List.Basic
import SortBench.Proofs.Sorting.Settled

/-!
# Stable arrangements

Two items tie when neither is found greater than the other. An arrangement is stable when the
items that tie with any given one stand in the order in which they were given: exchanging two
items, one of which is greater than the other, never disturbs this. Of a list that a total preorder
compares there is exactly one stable ascending arrangement, even where items that tie are not the
same.
-/

namespace SortBench.Sorting

variable {α ε : Type}

namespace Comparison

/-- Whether the first item is found greater than the second. A refused comparison finds nothing. -/
def exceeds (order : Comparison α ε) (a b : α) : Bool :=
  match order.gt a b with
  | .ok greater => greater
  | .error _ => false

/-- Whether neither item is found greater than the other. Items that tie need not be the same: one
and true tie, and so do items of one key. -/
def ties (order : Comparison α ε) (a b : α) : Bool :=
  !order.exceeds a b && !order.exceeds b a

/-- For every two items of the class it can be told whether the first one is greater. -/
def Tells (order : Comparison α ε) (among : α → Prop) : Prop :=
  ∀ a b, among a → among b → ∃ answer, order.gt a b = .ok answer

theorem Tells.gt_eq_exceeds {order : Comparison α ε} {among : α → Prop} {a b : α}
    (tells : order.Tells among) (left : among a) (right : among b) :
    order.gt a b = .ok (order.exceeds a b) := by
  obtain ⟨answer, compared⟩ := tells a b left right
  simp [exceeds, compared]

namespace Ranks

variable {order : Comparison α ε} {among : α → Prop} {a b c : α}

theorem tells (ranks : order.Ranks among) : order.Tells among := by
  intro a b left right
  obtain ⟨notGreater, _⟩ | ⟨greater, _⟩ := ranks.gt_cases left right
  · exact ⟨false, notGreater⟩
  · exact ⟨true, greater⟩

/-- An item is not greater than another exactly if it does not exceed it, so that both comparisons
can be read as one relation. -/
theorem le_iff (ranks : order.Ranks among) (left : among a) (right : among b) :
    order.le a b = .ok true ↔ order.exceeds a b = false := by
  obtain ⟨notGreater, below⟩ | ⟨greater, above, _⟩ := ranks.gt_cases left right
  · simp [exceeds, notGreater, below]
  · simp [exceeds, greater, above]

/-- An item that exceeds another is not exceeded by it. -/
theorem exceeds_asymm (ranks : order.Ranks among) (left : among a) (right : among b)
    (greater : order.exceeds a b = true) : order.exceeds b a = false := by
  obtain ⟨notGreater, _⟩ | ⟨_, _, below⟩ := ranks.gt_cases left right
  · simp [exceeds, notGreater] at greater
  · exact (ranks.le_iff right left).mp below

/-- Not to exceed is transitive, on the items of the class. -/
theorem not_exceeds_trans (ranks : order.Ranks among) (first : among a) (second : among b)
    (third : among c) (below : order.exceeds a b = false) (above : order.exceeds b c = false) :
    order.exceeds a c = false := by
  rw [← ranks.le_iff first third]
  exact ranks.trans first second third ((ranks.le_iff first second).mpr below)
    ((ranks.le_iff second third).mpr above)

/-- Items that tie with one item tie with each other. To tie is therefore an equivalence on the
class, and the items fall into ties. -/
theorem not_exceeds_of_ties (ranks : order.Ranks among) (first : among a) (second : among b)
    (third : among c) (left : order.ties a b = true) (right : order.ties a c = true) :
    order.exceeds b c = false := by
  simp only [ties, Bool.and_eq_true, Bool.not_eq_true'] at left right
  exact ranks.not_exceeds_trans second first third left.2 right.1

theorem ties_self (ranks : order.Ranks among) (member : among a) : order.ties a a = true := by
  simp [ties, (ranks.le_iff member member).mp (ranks.refl member)]

end Ranks

end Comparison

/-- A list has the items of another, each once, and keeps the order of those that tie with any one
of them. No more can be asked of a stable sort, and no less. -/
structure KeepsTies (order : Comparison α ε) (given result : List α) : Prop where
  /-- The items are the same. -/
  perm : result.Perm given
  /-- Items that tie are in the same order. -/
  stable : ∀ item ∈ given, result.filter (order.ties item) = given.filter (order.ties item)

/-- A list is the stable ascending arrangement of another: it ascends, and equal items stand in the
order in which they were given. -/
structure StablyArranges (order : Comparison α ε) (given result : List α) : Prop extends
    KeepsTies order given result where
  /-- No item is greater than a later one. -/
  ascending : result.Pairwise fun a b => order.le a b = .ok true

namespace KeepsTies

variable {order : Comparison α ε} {given between result : List α}

theorem refl (order : Comparison α ε) (given : List α) : KeepsTies order given given :=
  ⟨.refl given, fun _ _ => rfl⟩

theorem trans (first : KeepsTies order given between) (second : KeepsTies order between result) :
    KeepsTies order given result := by
  constructor
  · exact second.perm.trans first.perm
  · intro item member
    have carriedOver : item ∈ between := first.perm.mem_iff.mpr member
    exact (second.stable item carriedOver).trans (first.stable item member)

theorem among {among : α → Prop} (keeps : KeepsTies order given result)
    (held : ∀ item ∈ given, among item) : ∀ item ∈ result, among item :=
  fun item member => held item (keeps.perm.mem_iff.mp member)

end KeepsTies

/-- Two ascending arrangements of one list that keep its ties are one: their first items tie, so
both are the first of those that tie with them, and the rest follows by induction. -/
theorem eq_of_stable {order : Comparison α ε} {among : α → Prop} (ranks : order.Ranks among)
    {left right : List α} (held : ∀ item ∈ left, among item) (perm : left.Perm right)
    (stable : ∀ item ∈ left, left.filter (order.ties item) = right.filter (order.ties item))
    (leftAscending : left.Pairwise fun a b => order.le a b = .ok true)
    (rightAscending : right.Pairwise fun a b => order.le a b = .ok true) : left = right := by
  induction left generalizing right with
  | nil => exact perm.nil_eq
  | cons first leftRest inductionHypothesis =>
    cases right with
    | nil => exact perm.eq_nil
    | cons other rightRest =>
      rw [List.pairwise_cons] at leftAscending rightAscending
      have firstHeld : among first := held first (List.mem_cons_self ..)
      have otherMember : other ∈ first :: leftRest := perm.mem_iff.mpr (List.mem_cons_self ..)
      have otherHeld : among other := held other otherMember
      have tied : order.ties first other = true := by
        have below : order.exceeds first other = false := by
          rw [← ranks.le_iff firstHeld otherHeld]
          obtain rfl | later := List.mem_cons.mp otherMember
          · exact ranks.refl firstHeld
          · exact leftAscending.1 other later
        have above : order.exceeds other first = false := by
          rw [← ranks.le_iff otherHeld firstHeld]
          obtain rfl | later := List.mem_cons.mp (perm.mem_iff.mp (List.mem_cons_self ..))
          · exact ranks.refl firstHeld
          · exact rightAscending.1 first later
        simp [Comparison.ties, below, above]
      obtain rfl : first = other := by
        have same := stable first (List.mem_cons_self ..)
        rw [List.filter_cons_of_pos (ranks.ties_self firstHeld),
          List.filter_cons_of_pos tied] at same
        exact (List.cons.inj same).1
      congr 1
      apply inductionHypothesis
      · exact fun item member => held item (List.mem_cons_of_mem _ member)
      · exact perm.cons_inv
      · intro item member
        have same := stable item (List.mem_cons_of_mem _ member)
        rw [List.filter_cons, List.filter_cons] at same
        split at same
        · exact (List.cons.inj same).2
        · exact same
      · exact leftAscending.2
      · exact rightAscending.2

/-- There is one stable ascending arrangement of a list. A sort that is known to make one is
therefore known item by item, although many lists ascend and have the same items up to ties. -/
theorem StablyArranges.unique {order : Comparison α ε} {among : α → Prop}
    (ranks : order.Ranks among) {given first second : List α}
    (held : ∀ item ∈ given, among item) (one : StablyArranges order given first)
    (other : StablyArranges order given second) : second = first := by
  apply eq_of_stable ranks (other.toKeepsTies.among held)
  · exact other.perm.trans one.perm.symm
  · intro item member
    have inGiven : item ∈ given := other.perm.mem_iff.mp member
    exact (other.stable item inGiven).trans (one.stable item inGiven).symm
  · exact other.ascending
  · exact one.ascending

end SortBench.Sorting
