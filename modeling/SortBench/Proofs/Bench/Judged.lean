import SortBench.Proofs.Bench.Verdicts
import SortBench.Proofs.Numeral.ReadBack

/-!
# What a verdict is worth

A result is judged in two steps: the values are counted, then neighbours are compared. The judge
accepts exactly the ascending rearrangements of the given values, and what it reports otherwise is
exactly what is wrong: that the values are others, in whatever order they stand, or else the first
place where a value is greater than the next one. The other test of order asks whether values are at
most the next ones, and it agrees with the judge on every rearrangement.

Values are counted up to sameness, so that one, true and `1.0` stand for each other. All of this
holds of defined values that can be compared with each other.
-/

namespace SortBench.Bench

open Numeral (DigitLimit IsWritten usualLimit mostDigits)

/-- Two lists hold every value equally often, in whatever spelling. Values are counted as they are
compared for equality, so `1`, `1.0` and true are one value here; lists may differ in every item and
still hold the same. -/
def EquallyOften (given result : List Value) : Prop :=
  ∀ value : Value, result.countP value.same = given.countP value.same

/-- A value occurs in a list as often as its mark among the marks. Counting by a comparison becomes
counting by equality, for which there is a theory of rearrangements. -/
theorem countP_same (value : Value) (values : List Value) :
    values.countP value.same = (values.map Value.mark).count value.mark := by
  rw [List.count, List.countP_map]
  congr 1
  funext other
  exact BEq.comm

/-- Lists hold every value equally often exactly when their marks are rearrangements of each other.
The judge compares counts, and this is what its counts say. -/
theorem equallyOften_iff {given result : List Value} :
    EquallyOften given result ↔ (given.map Value.mark).Perm (result.map Value.mark) := by
  constructor
  · intro often
    refine List.perm_iff_count.mpr fun mark => ?_
    by_cases marked : ∃ value : Value, value.mark = mark
    · obtain ⟨value, rfl⟩ := marked
      rw [← countP_same, ← countP_same, often value]
    · have unmarked (values : List Value) : mark ∉ values.map Value.mark := by
        intro member
        obtain ⟨value, _, found⟩ := List.mem_map.mp member
        exact marked ⟨value, found⟩
      rw [List.count_eq_zero.mpr (unmarked given), List.count_eq_zero.mpr (unmarked result)]
  · intro same value
    exact countP_same_eq same value

/-- No value is greater than a later one. This is asked of all pairs and not only of neighbours, so
it is the order that a reader has in mind; that the judge looks at neighbours only is the matter of
the lemmas below. -/
def Ascends (values : List Value) : Prop :=
  values.Pairwise fun left right => left.le? right = .ok true

instance (values : List Value) : Decidable (Ascends values) :=
  inferInstanceAs (Decidable (values.Pairwise fun left right => left.le? right = .ok true))

/-- The value at an index is greater than the next one, and there is no smaller index of which this
is so. -/
structure DescendsFirstAt (values : List Value) (index : Nat) (left right : Value) : Prop where
  /-- The value at the index. -/
  here : values[index]? = some left
  /-- The next value. -/
  next : values[index + 1]? = some right
  /-- The value is greater than the next one. -/
  greater : left.gt? right = .ok true
  /-- No value before is greater than the next one. -/
  earlier : ∀ (i : Nat) (first second : Value), i < index → values[i]? = some first →
    values[i + 1]? = some second → first.gt? second = .ok false

/-- Where the first two values descend, they are the first descent, at index zero. -/
theorem descendsFirstAt_of_greater {left right : Value} (rest : List Value)
    (greater : left.gt? right = .ok true) (index : Nat) (first second : Value) :
    DescendsFirstAt (left :: right :: rest) index first second ↔
      index = 0 ∧ first = left ∧ second = right := by
  constructor
  · rintro ⟨here, next, -, earlier⟩
    cases index with
    | zero => exact ⟨rfl, (Option.some.inj here).symm, (Option.some.inj next).symm⟩
    | succ index =>
      have ordered := earlier 0 left right index.succ_pos rfl rfl
      simp [greater] at ordered
  · rintro ⟨rfl, rfl, rfl⟩
    exact ⟨rfl, rfl, greater, fun _ _ _ before => absurd before (Nat.not_lt_zero _)⟩

/-- Where the first two values do not descend, the first descent is the one of the list from the
second value on, at an index that is lower by one. -/
theorem descendsFirstAt_of_notGreater {left right : Value} (rest : List Value)
    (notGreater : left.gt? right = .ok false) (index : Nat) (first second : Value) :
    DescendsFirstAt (left :: right :: rest) index first second ↔
      ∃ position, index = position + 1 ∧
        DescendsFirstAt (right :: rest) position first second := by
  constructor
  · rintro ⟨here, next, greater, earlier⟩
    cases index with
    | zero =>
      cases here
      cases next
      simp [notGreater] at greater
    | succ index =>
      refine ⟨index, rfl, here, next, greater, fun i a b before atHere atNext => ?_⟩
      exact earlier (i + 1) a b (by omega) atHere atNext
  · rintro ⟨position, rfl, here, next, greater, earlier⟩
    refine ⟨here, next, greater, fun i a b before atHere atNext => ?_⟩
    cases i with
    | zero =>
      cases atHere
      cases atNext
      exact notGreater
    | succ i => exact earlier i a b (by omega) atHere atNext

/-- Where the first two values have no order, there is no first descent: the walk along the
neighbours ends there, and not with a verdict. -/
theorem not_descendsFirstAt_of_refused {left right : Value} (rest : List Value) {clash : Clash}
    (refused : left.gt? right = .error clash) (index : Nat) (first second : Value) :
    ¬ DescendsFirstAt (left :: right :: rest) index first second := by
  rintro ⟨here, next, greater, earlier⟩
  cases index with
  | zero =>
    cases here
    cases next
    simp [refused] at greater
  | succ index =>
    have ordered := earlier 0 left right index.succ_pos rfl rfl
    simp [refused] at ordered

/-- What the order is rejected for is the first descent, at its index in the list. The two values
that the rejection shows are those of the list, so it can be read as evidence and not only as a
verdict.

Proof: by the recursion of the walk, with the number at which the counting of positions begins left
free. -/
theorem verifyOrder_eq_descending_iff (start : Nat) (values : List Value) (index : Nat)
    (left right : Value) :
    verifyOrder start values = .error (.violation (.descending index left right)) ↔
      ∃ position, index = start + position ∧ DescendsFirstAt values position left right := by
  fun_induction verifyOrder start values with
  | case1 start first second rest greater =>
    simp only [descendsFirstAt_of_greater rest greater, Except.error.injEq, Fault.violation.injEq,
      Violation.descending.injEq]
    constructor
    · rintro ⟨rfl, rfl, rfl⟩
      exact ⟨0, rfl, rfl, rfl, rfl⟩
    · rintro ⟨position, rfl, rfl, rfl, rfl⟩
      exact ⟨rfl, rfl, rfl⟩
  | case2 start first second rest notGreater inductionHypothesis =>
    simp only [inductionHypothesis, descendsFirstAt_of_notGreater rest notGreater]
    constructor
    · rintro ⟨position, rfl, descends⟩
      exact ⟨position + 1, by omega, position, rfl, descends⟩
    · rintro ⟨_, rfl, position, rfl, descends⟩
      exact ⟨position, by omega, descends⟩
  | case3 start first second rest clash refused =>
    simp [not_descendsFirstAt_of_refused rest refused]
  | case4 values start few =>
    refine iff_of_false (by simp) ?_
    rintro ⟨position, -, here, next, -⟩
    cases values with
    | nil => simp at here
    | cons first rest =>
      cases rest with
      | nil => simp at next
      | cons second rest => exact few first second rest rfl

/-- The other test asks of each value whether it is at most the next one. The judge asks whether it
is greater; for values that are not a number these are two questions. -/
theorem isNonDecreasing_eq_true_iff (values : List Value) :
    isNonDecreasing values = .ok true ↔
      values.IsChain fun left right => left.le? right = .ok true := by
  fun_induction isNonDecreasing values with
  | case1 left right rest ordered inductionHypothesis => simp [ordered, inductionHypothesis]
  | case2 left right rest descends => simp [descends]
  | case3 left right rest clash refused => simp [refused]
  | case4 values few =>
    cases values with
    | nil => simp
    | cons left rest =>
      cases rest with
      | nil => simp
      | cons right rest => exact absurd rfl (few left right rest)

/-- Neighbours that are at most one another make a list ascend, for not to be greater is transitive.
No assumption on the values is needed, since an answer of yes already makes two values
comparable. -/
theorem isNonDecreasing_iff_ascends (values : List Value) :
    isNonDecreasing values = .ok true ↔ Ascends values := by
  have transitive : IsTrans Value fun left right => left.le? right = .ok true :=
    ⟨fun _ _ _ => Value.le?_trans⟩
  rw [isNonDecreasing_eq_true_iff, List.isChain_iff_pairwise, Ascends]

/-- The order of defined values is verified exactly when they ascend. Values that are not a number
have to be excluded: beside one of them no neighbour is ever greater, and the list would be accepted
as it stands. -/
theorem verifyOrder_iff_ascends {values : List Value}
    (defined : ∀ value ∈ values, value.IsDefined) :
    verifyOrder 0 values = .ok () ↔ Ascends values := by
  rw [verifyOrder_eq_ok_iff]
  constructor
  · exact pairwise_of_isChain defined
  · intro ascends
    exact (ascends.imp Value.gt?_of_le?).isChain

/-- Values that do not occur equally often are rejected, in whatever order they stand. The text
gives both lengths, which is why it has one whatever the values are. -/
theorem verifySorted_of_not_equallyOften {given result : List Value}
    (differ : ¬ EquallyOften given result) :
    verifySorted given result =
      .error (.violation (.notPermutation given.length result.length)) := by
  rw [equallyOften_iff, ← isRearrangement_iff] at differ
  exact if_neg differ

theorem verifySorted_of_equallyOften {given result : List Value}
    (often : EquallyOften given result) : verifySorted given result = verifyOrder 0 result := by
  rw [equallyOften_iff, ← isRearrangement_iff] at often
  exact if_pos often

/-- A list has one first descent, so what is true of some first descent is true of this one. -/
theorem DescendsFirstAt.exists_iff {values : List Value} {index : Nat} {left right : Value}
    (descends : DescendsFirstAt values index left right) (holds : Value → Value → Prop) :
    (∃ other first second, DescendsFirstAt values other first second ∧ holds first second) ↔
      holds left right := by
  refine ⟨?_, fun held => ⟨index, left, right, descends, held⟩⟩
  rintro ⟨other, first, second, again, held⟩
  -- Of two indices the smaller one would be no descent, by what is known of the larger one.
  obtain before | rfl | after := Nat.lt_trichotomy index other
  · have ordered := again.earlier index left right before descends.here descends.next
    simp [descends.greater] at ordered
  · cases descends.here.symm.trans again.here
    cases descends.next.symm.trans again.next
    exact held
  · have ordered := descends.earlier other first second after again.here again.next
    simp [again.greater] at ordered

/-- Defined values that ascend have no first descent. -/
theorem Ascends.not_descendsFirstAt {values : List Value}
    (defined : ∀ value ∈ values, value.IsDefined) (ascends : Ascends values) (index : Nat)
    (left right : Value) : ¬ DescendsFirstAt values index left right := by
  intro descends
  have stopped := (verifyOrder_eq_descending_iff 0 values index left right).mpr
    ⟨index, index.zero_add.symm, descends⟩
  rw [(verifyOrder_iff_ascends defined).mpr ascends] at stopped
  cases stopped

/-- The integers that the two values of a descent are shown with are written under a limit. Only
these two values matter, however long other integers of the list may be. -/
def IsNamed (limit : DigitLimit) (left right : Value) : Prop :=
  ∀ value ∈ [left, right], ∀ number ∈ Violation.shownNumber? value, IsWritten limit number

/-- The text of a descent names the integers of its two values, and no others. Its index is that of
a position in an array and has no need of a limit. -/
theorem isNamed_iff {limit : DigitLimit} (index : Nat) {left right : Value} :
    (∀ number ∈ (Violation.descending index left right).numbers, IsWritten limit number) ↔
      IsNamed limit left right := by
  simp [Violation.numbers, IsNamed, or_imp, forall_and]

/-- The verdict on a result as its caller meets it under a limit on digits. Acceptance is no text
and passes through unchanged. -/
def judged (limit : DigitLimit) (given result : List Value) : Except Fault Unit :=
  (verifySorted given result).mapError (Fault.raised limit)

/-- A caller learns under a limit that a result violates a rule. What is asked for is the rule of
the violation, so that the two rejections are told apart and neither is confused with an error of
another kind. -/
def Rejects (limit : DigitLimit) (given result : List Value) (rule : Text) : Prop :=
  ∃ cause, judged limit given result = .error (.violation cause) ∧ cause.rule = rule

/-- The rules of the judge are two. -/
theorem rules_apart : ("non_decreasing" : Text) ≠ "permutation" := by decide

/-- The ways in which a result of comparable defined values is judged, with what the caller meets in
each. Only the last one depends on the limit. The three cases exclude each other by what they say of
the values, so each of the equivalences below is read off in all three. -/
theorem judged_cases (given : List Value) {result : List Value}
    (defined : ∀ value ∈ result, value.IsDefined) (comparable : Comparable result) :
    (EquallyOften given result ∧ Ascends result ∧ ∀ limit, judged limit given result = .ok ()) ∨
      (¬ EquallyOften given result ∧ ∀ limit, judged limit given result =
        .error (.violation (.notPermutation given.length result.length))) ∨
      (EquallyOften given result ∧ ¬ Ascends result ∧ ∃ index left right,
        DescendsFirstAt result index left right ∧ ∀ limit, judged limit given result =
          .error ((Fault.violation (.descending index left right)).raised limit)) := by
  by_cases often : EquallyOften given result
  · have accepted : verifyOrder 0 result = .ok () ↔ Ascends result :=
      verifyOrder_iff_ascends defined
    unfold judged
    rw [verifySorted_of_equallyOften often]
    obtain verified | ⟨index, left, right, rejected, _⟩ := verifyOrder_of_comparable 0 comparable
    · exact Or.inl ⟨often, accepted.mp verified, fun limit => by rw [verified]; rfl⟩
    · obtain ⟨position, found, first⟩ :=
        (verifyOrder_eq_descending_iff 0 result index left right).mp rejected
      obtain rfl : index = position := found.trans position.zero_add
      have descends : ¬ Ascends result := mt accepted.mpr (by simp [rejected])
      exact Or.inr (Or.inr ⟨often, descends, index, left, right, first,
        fun limit => by rw [rejected]; rfl⟩)
  · refine Or.inr (Or.inl ⟨often, fun limit => ?_⟩)
    rw [judged, verifySorted_of_not_equallyOften often]
    exact congrArg Except.error (Fault.raised_of_numbers_eq_nil rfl)

/-- Two integers in the wrong order, the greater of them with too many digits. Without a limit they
are rejected by the rule on the order; under the usual limit the greater one cannot be shown, and
what is met in place of the rejection is the error of the runtime. -/
theorem judged_of_long {small large : Int} (descends : small < large)
    (long : ¬ Numeral.IsShort large) :
    judged none [.integer small, .integer large] [.integer large, .integer small] =
        .error (.violation (.descending 0 (.integer large) (.integer small))) ∧
      judged usualLimit [.integer small, .integer large] [.integer large, .integer small] =
        .error (.unwritten mostDigits) := by
  have often :
      EquallyOften [.integer small, .integer large] [.integer large, .integer small] :=
    equallyOften_iff.mpr (.swap ..)
  have greater : (Value.integer large).gt? (.integer small) = .ok true := by
    rw [Value.gt?, Value.decide_of_quantities _ _ _ _ rfl rfl, Except.ok.injEq]
    simp [Quantity.gt, Quantity.compare?, compare_gt_iff_gt, descends]
  have rejected : verifySorted [.integer small, .integer large] [.integer large, .integer small] =
      .error (.violation (.descending 0 (.integer large) (.integer small))) := by
    rw [verifySorted_of_equallyOften often, verifyOrder, greater]
  have unshown : ¬ ∀ number ∈
      (Fault.violation (.descending 0 (.integer large) (.integer small))).numbers,
      Numeral.IsShort number := fun short => long (short large (List.mem_cons_self ..))
  unfold judged
  rw [rejected]
  exact ⟨rfl, congrArg Except.error (by rw [Fault.raised_usual, if_neg unshown])⟩

end SortBench.Bench
