import Mathlib.Data.List.Forall2
import SortBench.Digest.Canonical
import SortBench.Proofs.Value.Marks

/-!
# Lists that agree

Equal numbers may be spelled differently, and a sort may leave their spellings in any order. Neither
can be seen in the canonical text: it is written from the marks alone. And of the marks there is one
ascending arrangement only, so two ascending lists of the same numbers agree position by position.
-/

namespace SortBench

namespace Mark

/-- One mark is at most another when defined numbers that have these marks are. -/
def AtMost (left right : Mark) : Prop :=
  ∃ a b : Value, (Value.IsOrdered .number a ∧ Value.IsOrdered .number b) ∧
    (a.mark = left ∧ b.mark = right) ∧ a.le? b = .ok true

/-- Two marks that are at most each other are one mark. The numbers that show the one need not be
those that show the other, but they are the same numbers. -/
theorem AtMost.antisymm {left right : Mark} (below : AtMost left right)
    (above : AtMost right left) : left = right := by
  obtain ⟨a, b, ⟨aOrdered, bOrdered⟩, ⟨rfl, rfl⟩, upward⟩ := below
  obtain ⟨c, d, ⟨cOrdered, dOrdered⟩, ⟨cMark, dMark⟩, downward⟩ := above
  have first : b.le? c = .ok true :=
    ((Value.same_iff bOrdered cOrdered).mp (beq_iff_eq.mpr cMark.symm)).1
  have last : d.le? a = .ok true :=
    ((Value.same_iff dOrdered aOrdered).mp (beq_iff_eq.mpr dMark)).1
  have back : b.le? a = .ok true := Value.le?_trans (Value.le?_trans first downward) last
  exact beq_iff_eq.mp ((Value.same_iff aOrdered bOrdered).mpr ⟨upward, back⟩)

end Mark

/-- Lists are the same position by position when they have the same marks in the same order. -/
theorem Value.forall₂_same_iff (left right : List Value) :
    List.Forall₂ (fun a b => a.same b = true) left right ↔ left.map mark = right.map mark := by
  rw [← List.forall₂_eq_eq_eq, List.forall₂_map_left_iff, List.forall₂_map_right_iff]
  simp only [same, beq_iff_eq]

/-- Two ascending lists of the same defined numbers have the same marks in the same order. The
values themselves may differ: an integer in one list may stand where a floating-point number stands
in the other.

Proof: the order of the marks is antisymmetric, and an antisymmetric order has one ascending
arrangement of a multiset. -/
theorem Value.map_mark_eq_of_ascending {left right : List Value}
    (numbers : ∀ value ∈ left ++ right, IsOrdered .number value)
    (leftAscending : left.Pairwise fun a b => a.le? b = .ok true)
    (rightAscending : right.Pairwise fun a b => a.le? b = .ok true)
    (marks : (left.map mark).Perm (right.map mark)) : left.map mark = right.map mark := by
  have ascending {values : List Value} (ordered : ∀ value ∈ values, IsOrdered .number value)
      (sorted : values.Pairwise fun a b => a.le? b = .ok true) :
      (values.map mark).Pairwise Mark.AtMost := by
    rw [List.pairwise_map]
    refine sorted.imp_of_mem ?_
    intro a b first second compared
    exact ⟨a, b, ⟨ordered a first, ordered b second⟩, ⟨rfl, rfl⟩, compared⟩
  apply List.Perm.eq_of_pairwise fun _ _ _ _ => Mark.AtMost.antisymm
  · exact ascending (fun value member => numbers value (List.mem_append_left _ member))
      leftAscending
  · exact ascending (fun value member => numbers value (List.mem_append_right _ member))
      rightAscending
  · exact marks

namespace Canonical

/-- The integers of defined numbers are cut off from their marks. Numbers of one mark therefore
convert to one integer, though they may be of different kinds. -/
theorem integers_eq_truncated? {values : List Value}
    (numbers : ∀ value ∈ values, Value.IsOrdered .number value) :
    integers values = (values.map Value.mark).mapM Mark.truncated? := by
  unfold integers
  rw [List.mapM_map]
  induction values with
  | nil => rfl
  | cons value rest inductionHypothesis =>
    obtain ⟨first, others⟩ := List.forall_mem_cons.mp numbers
    rw [List.mapM_cons, List.mapM_cons, Value.toInteger_eq_truncated? first,
      inductionHypothesis others]
    rfl

/-- Marks are refused an integer as infinities only. The mark of what is not a number does not occur
among defined numbers. -/
theorem mapM_truncated?_error {marks : List Mark} {cause : NotInteger}
    (refused : marks.mapM Mark.truncated? = .error cause) : cause = .infinite := by
  induction marks with
  | nil => cases refused
  | cons mark rest inductionHypothesis =>
    rw [List.mapM_cons] at refused
    cases first : mark.truncated? with
    | error other =>
      rw [first] at refused
      cases refused
      cases mark <;> cases first <;> rfl
    | ok number =>
      rw [first] at refused
      cases others : rest.mapM Mark.truncated? with
      | error other =>
        rw [others] at refused
        cases refused
        exact inductionHypothesis others
      | ok numbers =>
        rw [others] at refused
        cases refused

/-- Two lists that cannot be told apart: the same numbers at the same positions; one canonical text
and one digest; and where there is none, the cause is one for both, an infinity or an integer that
is not written. -/
structure Agree (left right : List Value) : Prop where
  /-- The values are the same, position by position. -/
  same : List.Forall₂ (fun a b => a.same b = true) left right
  /-- There is one canonical text, or none for one cause. -/
  text : Canonical.text left = Canonical.text right
  /-- There is one digest, or none for one cause. -/
  digest : Canonical.digest left = Canonical.digest right
  /-- The cause can only be an infinity or an integer that is not written. -/
  cause : ∀ cause, Canonical.text left = .error cause →
    cause = .conversion .infinite ∨
      cause = .unwritten Numeral.mostDigits ∧
        ∃ numbers, integers left = .ok numbers ∧ ∃ number ∈ numbers, ¬ Numeral.IsShort number

/-- Two ascending lists of the same defined numbers agree. Nothing is asked of how they came to be
ascending, so it applies to any two sorts. -/
theorem Agree.of_ascending {left right : List Value}
    (numbers : ∀ value ∈ left ++ right, Value.IsOrdered .number value)
    (leftAscending : left.Pairwise fun a b => a.le? b = .ok true)
    (rightAscending : right.Pairwise fun a b => a.le? b = .ok true)
    (marks : (left.map Value.mark).Perm (right.map Value.mark)) : Agree left right := by
  have equal := Value.map_mark_eq_of_ascending numbers leftAscending rightAscending marks
  have leftIntegers := integers_eq_truncated? fun value member =>
    numbers value (List.mem_append_left right member)
  have rightIntegers := integers_eq_truncated? fun value member =>
    numbers value (List.mem_append_right left member)
  have integersEqual : integers left = integers right := by
    rw [leftIntegers, rightIntegers, equal]
  have charsEqual : writtenChars left = writtenChars right := by
    rw [writtenChars, writtenChars, integersEqual]
  refine ⟨(Value.forall₂_same_iff left right).mpr equal,
    congrArg (Except.map String.ofList) charsEqual,
    congrArg (Except.map digestOfChars) charsEqual, ?_⟩
  intro cause refused
  unfold Canonical.text writtenChars at refused
  cases read : integers left with
  | error other =>
    rw [read] at refused
    cases refused
    rw [leftIntegers] at read
    exact Or.inl (congrArg Fault.conversion (mapM_truncated?_error read))
  | ok numbers =>
    rw [read] at refused
    dsimp only at refused
    split at refused
    case isTrue => cases refused
    case isFalse long =>
      cases refused
      exact Or.inr ⟨rfl, numbers, rfl, by simpa using long⟩

end Canonical

end SortBench
