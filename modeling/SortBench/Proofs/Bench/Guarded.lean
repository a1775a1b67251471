import SortBench.Bench.Operations
import SortBench.Proofs.Fault.Raised
import SortBench.Proofs.Numeral.ReadBack
import SortBench.Proofs.Sorting.Addressed

/-!
# Guarded operations

An operation on the bench refuses its arguments exactly when one of its checks is violated; it names
the first one that is, and leaves the bench as it is. The checks are made once, when the operation
is called, and they are sufficient. What is done afterwards is a script that addresses the array by
integers and checks none of them. It reads and writes positions of the given range only, whatever
the comparisons answer, so that no integer is ever beyond the array, nor counted from its end.

The arguments are integers of any size, and a refusal names them. A runtime with a limit on digits
cannot name every one of them, so what a caller meets is stated for each limit: the refusal itself
where its integers are written, and otherwise that one of them is not. The limit touches nothing
else. It has no part in whether arguments are refused, in what becomes of the array and the tally,
or in anything that a script does.
-/

namespace SortBench

open Numeral (DigitLimit IsWritten usualLimit mostDigits)

/-- An operation as its caller meets it under a limit on digits: a failure is the fault that is
raised for it, and the answer and the bench are the same. The operations themselves know nothing of
limits, which come in only where a failure is put into words. -/
def Operation.raising {β : Type} (limit : DigitLimit) (operation : Operation β) : Operation β :=
  fun bench => ((operation bench).1.mapError (Fault.raised limit), (operation bench).2)

namespace Bench

open Sorting

/-- A cause is that of the first violated check of a list. Checks that are made in a fixed order are
not a set of conditions: which one is named where several are violated is part of what a caller
sees. -/
inductive FirstViolated : List (Prop × Precondition) → Precondition → Prop where
  /-- The check at the head is violated. -/
  | here {violated : Prop} {cause : Precondition} {rest : List (Prop × Precondition)}
    (now : violated) : FirstViolated ((violated, cause) :: rest) cause
  /-- The check at the head is met, and the first violated one comes later. -/
  | later {violated : Prop} {other cause : Precondition} {rest : List (Prop × Precondition)}
    (met : ¬ violated) (next : FirstViolated rest cause) :
    FirstViolated ((violated, other) :: rest) cause

theorem FirstViolated.exists_violated {checks : List (Prop × Precondition)} {cause : Precondition}
    (first : FirstViolated checks cause) : ∃ check ∈ checks, check.1 := by
  induction first with
  | here now => exact ⟨_, List.mem_cons_self, now⟩
  | later met next inductionHypothesis =>
    obtain ⟨check, member, violated⟩ := inductionHypothesis
    exact ⟨check, List.mem_cons_of_mem _ member, violated⟩

/-- Where a check is violated, one is the first. With its converse above, an operation refuses its
arguments exactly where one of the conditions fails, without regard to their order. -/
theorem FirstViolated.exists_of_violated {checks : List (Prop × Precondition)}
    (violated : ∃ check ∈ checks, check.1) : ∃ cause, FirstViolated checks cause := by
  induction checks with
  | nil =>
    obtain ⟨check, member, _⟩ := violated
    cases member
  | cons check rest inductionHypothesis =>
    by_cases now : check.1
    · exact ⟨check.2, .here now⟩
    · obtain ⟨other, member, violated⟩ := violated
      obtain rfl | member := List.mem_cons.mp member
      · exact absurd violated now
      · obtain ⟨cause, first⟩ := inductionHypothesis ⟨other, member, violated⟩
        exact ⟨cause, .later now first⟩

/-- Without a limit every refusal can name its integers, so that a first violated check is all that
it takes. -/
theorem FirstViolated.exists_written_iff {checks : List (Prop × Precondition)} :
    (∃ cause, FirstViolated checks cause ∧ ∀ number ∈ cause.numbers, IsWritten none number) ↔
      ∃ check ∈ checks, check.1 := by
  constructor
  · rintro ⟨cause, first, _⟩
    exact first.exists_violated
  · intro violated
    obtain ⟨cause, first⟩ := exists_of_violated violated
    exact ⟨cause, first, fun number _ => Numeral.isWritten_none number⟩

/-- There is one first violated check, so a refusal has one cause and the cause is a function of the
arguments. -/
theorem FirstViolated.unique {checks : List (Prop × Precondition)} {cause other : Precondition}
    (first : FirstViolated checks cause) (second : FirstViolated checks other) :
    cause = other := by
  induction first with
  | here now =>
    cases second with
    | here again => rfl
    | later met _ => exact absurd now met
  | later met next inductionHypothesis =>
    cases second with
    | here now => exact absurd now met
    | later _ again => exact inductionHypothesis again

/-- The check of a position. Negative positions are out of bounds and do not count from the end. -/
def indexCheck (length : Nat) (index : Int) : Prop × Precondition :=
  (index < 0 ∨ length ≤ index, .indexOutOfBounds index length)

/-- The checks of a number of items: first that it is not negative, then that the array has so
many. -/
def sizeChecks (length : Nat) (size : Int) : List (Prop × Precondition) :=
  [(size < 0, .negativeSize size), (length < size, .sizeBeyondArray size length)]

/-- The checks of a range that is to be partitioned: that there is one, and where it lies. An empty
range has no last item to divide by, so here it is refused. -/
def partitionChecks (length : Nat) (low high : Int) : List (Prop × Precondition) :=
  [(high < low, .emptyRange low high), (low < 0, .negativeLow low),
    (length ≤ high, .highOutOfBounds high length)]

/-- The checks of a range that is to be sorted: where it lies, if there is anything to sort. A range
of at most one position is sorted wherever it lies, and its bounds are not looked at. -/
def sortChecks (length : Nat) (low high : Int) : List (Prop × Precondition) :=
  [(low < high ∧ low < 0, .negativeLow low),
    (low < high ∧ length ≤ high, .highOutOfBounds high length)]

/-- An operation is guarded by checks. It refuses its arguments for the first violated one and for
nothing else, and a refusal leaves the bench as it is. If none is violated, it runs a script, for
some number of passes, levels or turns; where the script would address nothing, it may end with any
error, since that does not occur: for any number of rounds and any comparisons, the script keeps to
a class of positions, all of them in the array, and fails only as the comparisons do or for want of
rounds.

The first three fields are about what the caller meets, under whatever limit on digits. Where a
runtime writes every integer, its caller meets a refusal exactly when a check is violated; under a
limit the integers of the refusal have to be written as well. -/
structure Guarded {β : Type} (bench : Bench) (operation : Operation β)
    (checks : List (Prop × Precondition)) (positions : Int → Prop)
    (script : Comparison Value Fault → Nat → Script Value Fault β) : Prop where
  /-- Without a limit the arguments are refused exactly when a check is violated. -/
  refuses_iff : (∃ cause, (operation.raising none bench).1 = .error (.precondition cause)) ↔
    ∃ check ∈ checks, check.1
  /-- Under any limit they are refused exactly when a check is violated and the integers that the
  refusal for the first one names are written. -/
  refuses_iff_written : ∀ limit,
    (∃ cause, (operation.raising limit bench).1 = .error (.precondition cause)) ↔
      ∃ cause, FirstViolated checks cause ∧ ∀ number ∈ cause.numbers, IsWritten limit number
  /-- Where a check is violated, what is raised is raised for the first one, and the bench is left
  as it is. -/
  refused : ∀ limit cause, FirstViolated checks cause → operation.raising limit bench =
    (.error ((Fault.precondition cause).raised limit), bench)
  /-- Otherwise the script is run, whatever an address of nothing would end it with. -/
  runs : (∀ check ∈ checks, ¬ check.1) → ∃ rounds, ∀ limit lost,
    operation.raising limit bench = perform bench ((script order rounds).run lost)
  /-- The script keeps to the positions and to the array. -/
  keeps : (∀ check ∈ checks, ¬ check.1) → ∀ (other : Comparison Value Fault) (rounds : Nat),
    (script other rounds).Keeps
      (fun p => positions p ∧ 0 ≤ p ∧ p < bench.values.size)
      (fun fault => fault = tooDeep ∨ other.Refuses fault) fun _ => True

/-- A fault that a refused comparison was put in terms of is that of a refused comparison, and so
never a refusal of the arguments. -/
theorem exists_of_mapError {answer : Except Clash Bool} {fault : Fault}
    (refused : answer.mapError Fault.incomparable = .error fault) :
    ∃ clash, fault = .incomparable clash := by
  cases answer with
  | ok answer => cases refused
  | error clash => exact ⟨clash, (Except.error.inj refused).symm⟩

/-- The comparisons on the bench refuse a pair only because it has no order. -/
theorem exists_of_refuses {fault : Fault} (refuses : order.Refuses fault) :
    ∃ clash, fault = .incomparable clash := by
  obtain ⟨a, b, refused | refused⟩ := refuses
  · exact exists_of_mapError refused
  · exact exists_of_mapError refused

variable {β : Type} {bench : Bench} {operation : Operation β}
  {checks : List (Prop × Precondition)} {positions : Int → Prop}
  {script : Comparison Value Fault → Nat → Script Value Fault β}

/-- An operation that refuses its arguments for the first violated check, and changes nothing, is
guarded. The fields about scripts are then empty: they speak of arguments none of whose checks is
violated. -/
theorem Guarded.of_refusal {cause : Precondition} (first : FirstViolated checks cause)
    (refused : operation bench = (.error (.precondition cause), bench)) :
    Guarded bench operation checks positions script := by
  have violated : ¬ ∀ check ∈ checks, ¬ check.1 := by
    obtain ⟨check, member, now⟩ := first.exists_violated
    exact fun met => met check member now
  have raised (limit : DigitLimit) : operation.raising limit bench =
      (.error ((Fault.precondition cause).raised limit), bench) := by
    rw [Operation.raising, refused]
    rfl
  have refuses (limit : DigitLimit) :
      (∃ cause, (operation.raising limit bench).1 = .error (.precondition cause)) ↔
        ∃ cause, FirstViolated checks cause ∧
          ∀ number ∈ cause.numbers, IsWritten limit number := by
    simp only [raised, Except.error.injEq, Fault.raised_eq_precondition_iff]
    constructor
    · rintro ⟨_, rfl, written⟩
      exact ⟨cause, first, written⟩
    · rintro ⟨other, again, written⟩
      obtain rfl := first.unique again
      exact ⟨cause, rfl, written⟩
  constructor
  case refuses_iff => exact (refuses none).trans FirstViolated.exists_written_iff
  case refuses_iff_written => exact refuses
  case refused =>
    intro limit other again
    rw [raised, first.unique again]
  case runs => exact fun met => absurd met violated
  case keeps => exact fun met => absurd met violated

/-- An operation whose checks are met, and which runs a script that keeps to its positions, is
guarded. Such a script fails as the comparisons do or for want of rounds; neither is a refusal of
the arguments, and neither has an integer in its text, so the limit makes no difference. -/
theorem Guarded.of_script (met : ∀ check ∈ checks, ¬ check.1)
    (runs : ∃ rounds, ∀ lost, operation bench = perform bench ((script order rounds).run lost))
    (keeps : ∀ (other : Comparison Value Fault) (rounds : Nat), (script other rounds).Keeps
      (fun p => positions p ∧ 0 ≤ p ∧ p < bench.values.size)
      (fun fault => fault = tooDeep ∨ other.Refuses fault) fun _ => True) :
    Guarded bench operation checks positions script := by
  obtain ⟨rounds, ran⟩ := runs
  have failure {fault : Fault} (failed : (operation bench).1 = .error fault) :
      fault = tooDeep ∨ ∃ clash, fault = .incomparable clash := by
    rw [ran tooDeep] at failed
    exact ((keeps order rounds).run_error (fun p inside => inside.2) tooDeep _ _ failed).imp_right
      exists_of_refuses
  have unaltered (limit : DigitLimit) : operation.raising limit bench = operation bench := by
    refine Prod.ext ?_ rfl
    rw [Operation.raising]
    cases answer : (operation bench).1 with
    | ok answer => rfl
    | error fault =>
      obtain rfl | ⟨clash, rfl⟩ := failure answer
      · exact congrArg Except.error (Fault.raised_of_numbers_eq_nil rfl)
      · exact congrArg Except.error (Fault.raised_of_numbers_eq_nil rfl)
  have unviolated : ¬ ∃ cause, FirstViolated checks cause := by
    rintro ⟨cause, first⟩
    obtain ⟨check, member, violated⟩ := first.exists_violated
    exact met check member violated
  have refuses (limit : DigitLimit) :
      (∃ cause, (operation.raising limit bench).1 = .error (.precondition cause)) ↔
        ∃ cause, FirstViolated checks cause ∧
          ∀ number ∈ cause.numbers, IsWritten limit number := by
    rw [unaltered]
    refine iff_of_false ?_ fun ⟨cause, first, _⟩ => unviolated ⟨cause, first⟩
    rintro ⟨cause, failed⟩
    obtain exhausted | ⟨clash, other⟩ := failure failed
    · cases exhausted
    · cases other
  constructor
  case refuses_iff => exact (refuses none).trans FirstViolated.exists_written_iff
  case refuses_iff_written => exact refuses
  case refused => exact fun _ cause first => absurd ⟨cause, first⟩ unviolated
  case runs => exact fun _ => ⟨rounds, fun limit lost => (unaltered limit).trans (ran lost)⟩
  case keeps => exact fun _ => keeps

/-- An exchange is guarded by a check of each position, the first argument before the second. -/
theorem swap_guarded (bench : Bench) (a b : Int) :
    Guarded bench (swap a b)
      [indexCheck bench.values.size a, indexCheck bench.values.size b]
      (fun p => p = a ∨ p = b) fun _ _ => .exchange a b (.done ()) := by
  by_cases first : a < 0 ∨ bench.values.size ≤ a
  · exact .of_refusal (.here first) (by simp only [swap, requireIndex, first, ↓reduceDIte, refuse])
  by_cases second : b < 0 ∨ bench.values.size ≤ b
  · exact .of_refusal (.later first (.here second))
      (by simp only [swap, requireIndex, first, second, ↓reduceDIte, refuse])
  have aInside : 0 ≤ a ∧ a < bench.values.size := by omega
  have bInside : 0 ≤ b ∧ b < bench.values.size := by omega
  refine .of_script (by simp [indexCheck, aInside, bInside]) ⟨0, fun lost => ?_⟩ fun _ _ => ?_
  · simp only [swap, requireIndex, first, second, ↓reduceDIte]
    rw [perform, Script.run_exchange lost _ _ (Int.toNat_of_nonneg aInside.1).symm
      (Int.toNat_of_nonneg bInside.1).symm (by omega) (by omega)]
    cases bench.tally <;> rfl
  · exact .exchange ⟨Or.inl rfl, aInside⟩ ⟨Or.inr rfl, bInside⟩ trivial

/-- The bubble sort is guarded by checks of the number of items. It addresses positions below that
number only, however many passes it makes and whatever the comparisons say. -/
theorem bubbleSort_guarded (bench : Bench) (size : Int) :
    Guarded bench (bubbleSort size) (sizeChecks bench.values.size size)
      (fun p => 0 ≤ p ∧ p < size) fun order limit => Addressed.bubble order size limit := by
  by_cases negative : size < 0
  · exact .of_refusal (.here negative)
      (by simp only [bubbleSort, requireSize, negative, ↓reduceDIte, refuse])
  by_cases beyond : bench.values.size < size
  · exact .of_refusal (.later negative (.here beyond))
      (by simp only [bubbleSort, requireSize, negative, beyond, ↓reduceDIte, refuse])
  refine .of_script (by simp [sizeChecks, negative, beyond]) ?_ fun other limit => ?_
  · obtain ⟨count, rfl⟩ : ∃ count : Nat, size = count := ⟨size.toNat, by omega⟩
    refine ⟨count, fun lost => ?_⟩
    simp only [bubbleSort, requireSize, negative, beyond, ↓reduceDIte]
    refine congrArg (perform bench) ?_
    funext items tally
    exact (Addressed.run_bubble order lost count _ items tally).symm
  · exact (Addressed.bubble_keeps other size limit).mono
      (fun p inside => ⟨inside, inside.1, by omega⟩) (fun _ refused => Or.inr refused)
      fun _ _ => trivial

/-- A partition is guarded by checks of its range, the first of which is that it has a position. -/
theorem partition_guarded (bench : Bench) (low high : Int) :
    Guarded bench (partition low high) (partitionChecks bench.values.size low high)
      (fun p => low ≤ p ∧ p ≤ high) fun order _ =>
        (Addressed.partition order low high).bind fun p => .done p.toNat := by
  by_cases empty : high < low
  · exact .of_refusal (.here empty) (by simp only [partition, empty, ↓reduceDIte, refuse])
  by_cases negative : low < 0
  · exact .of_refusal (.later empty (.here negative))
      (by simp only [partition, empty, requireRange, negative, ↓reduceDIte, refuse])
  by_cases beyond : bench.values.size ≤ high
  · exact .of_refusal (.later empty (.later negative (.here beyond)))
      (by simp only [partition, empty, requireRange, negative, beyond, ↓reduceDIte, refuse])
  refine .of_script (by simp [partitionChecks, empty, negative, beyond]) ⟨0, fun lost => ?_⟩
    fun other _ => ?_
  · have some : low ≤ high := Int.not_lt.mp empty
    have inside : 0 ≤ low ∧ high < bench.values.size := by omega
    have first : low = (span some inside).start := by simp only [span]; omega
    have final : high + 1 = (span some inside).stop := by simp only [span]; omega
    simp only [partition, empty, requireRange, negative, beyond, ↓reduceDIte]
    refine congrArg (perform bench) ?_
    funext items tally
    rw [Script.run_bind, Addressed.run_partition order lost _ (by omega) first final,
      Outcome.andThen_andThen]
    rfl
  · have kept : (Addressed.partition other low high).Keeps
        (fun p => (low ≤ p ∧ p ≤ high) ∧ 0 ≤ p ∧ p < bench.values.size)
        (fun fault => fault = tooDeep ∨ other.Refuses fault) fun _ => True :=
      (Addressed.partition_keeps other (Int.not_lt.mp empty)).mono
        (fun p inside => ⟨inside, by omega⟩) (fun _ refused => Or.inr refused) fun _ _ => trivial
    exact kept.bind fun _ _ => trivial

/-- A sort of a range is guarded by checks of the range, if there is anything to sort. What is asked
of the sort is that a script over integer addresses does the same and keeps to every range that
contains its own; a script for an idle range does nothing at all. -/
theorem sortRange_guarded (bench : Bench) (low high : Int)
    (sort : {length : Nat} → Span length → Vector Value length → Tally →
      Outcome Value Fault Unit length)
    (script : Comparison Value Fault → Nat → Script Value Fault Unit)
    (idle : high ≤ low → ∃ rounds, script order rounds = .done ())
    (runs : ∀ span : Span bench.values.size, low = span.start → high + 1 = span.stop →
      ∃ rounds, ∀ lost, (script order rounds).run lost = sort span)
    (keeps : ∀ (other : Comparison Value Fault) (rounds : Nat) {lowest highest : Int},
      (low < high → lowest ≤ low ∧ high ≤ highest) →
        (script other rounds).Keeps (fun p => lowest ≤ p ∧ p ≤ highest)
          (fun fault => fault = tooDeep ∨ other.Refuses fault) fun _ => True) :
    Guarded bench (sortRange low high sort) (sortChecks bench.values.size low high)
      (fun p => low ≤ p ∧ p ≤ high) script := by
  -- What the script keeps to follows from where the range lies, if there is anything to sort.
  have kept (within : low < high → 0 ≤ low ∧ high < bench.values.size)
      (other : Comparison Value Fault) (rounds : Nat) : (script other rounds).Keeps
        (fun p => (low ≤ p ∧ p ≤ high) ∧ 0 ≤ p ∧ p < bench.values.size)
        (fun fault => fault = tooDeep ∨ other.Refuses fault) fun _ => True := by
    have ends : low < high → max low 0 ≤ low ∧ high ≤ min high (bench.values.size - 1) := by
      omega
    exact (keeps other rounds ends).mono (fun p inside => by omega) (fun _ error => error)
      fun _ answer => answer
  by_cases few : high ≤ low
  · have idles : ¬ low < high := Int.not_lt.mpr few
    refine .of_script (by simp [sortChecks, idles]) ?_ (kept fun several => absurd several idles)
    obtain ⟨rounds, ended⟩ := idle few
    refine ⟨rounds, fun lost => ?_⟩
    rw [sortRange, dif_pos few, ended]
    cases bench with
    | mk values tally => cases tally <;> rfl
  have several : low < high := Int.not_le.mp few
  by_cases negative : low < 0
  · exact .of_refusal (.here ⟨several, negative⟩)
      (by simp only [sortRange, few, requireRange, negative, ↓reduceDIte, refuse])
  by_cases beyond : bench.values.size ≤ high
  · exact .of_refusal (.later (fun violated => negative violated.2) (.here ⟨several, beyond⟩))
      (by simp only [sortRange, few, requireRange, negative, beyond, ↓reduceDIte, refuse])
  have inside : 0 ≤ low ∧ high < bench.values.size := by omega
  refine .of_script (by simp [sortChecks, negative, beyond]) ?_ (kept fun _ => inside)
  obtain ⟨rounds, ran⟩ := runs (span (Int.le_of_lt several) inside)
    (by simp only [span]; omega) (by simp only [span]; omega)
  refine ⟨rounds, fun lost => ?_⟩
  simp only [sortRange, few, requireRange, negative, beyond, ↓reduceDIte, ran]

/-- The recursive quicksort is guarded. Its script never leaves the range of the call, since each
level divides the range that it was given. -/
theorem quickSort_guarded (bench : Bench) (low high : Int) :
    Guarded bench (quickSort low high) (sortChecks bench.values.size low high)
      (fun p => low ≤ p ∧ p ≤ high) fun order room =>
        Addressed.quick order tooDeep room 1 low high := by
  refine sortRange_guarded bench low high _ _ ?_ ?_ ?_
  · intro few
    exact ⟨0, if_neg (Int.not_lt.mpr few)⟩
  · intro span first final
    exact ⟨deepestLevel, fun lost => funext fun items => funext fun tally =>
      Addressed.run_quick order lost tooDeep deepestLevel 1 span first final items tally⟩
  · intro other room lowest highest within
    exact Addressed.quick_keeps other tooDeep room 1 low high within

/-- The quicksort over a stack is guarded. Here it is the ranges on the stack that stay within the
one of the call. -/
theorem quickSortIterative_guarded (bench : Bench) (low high : Int) :
    Guarded bench (quickSortIterative low high) (sortChecks bench.values.size low high)
      (fun p => low ≤ p ∧ p ≤ high) fun order turns =>
        Addressed.drain order tooDeep turns [(low, high, 1)] := by
  refine sortRange_guarded bench low high _ _ ?_ ?_ ?_
  · intro few
    refine ⟨1, ?_⟩
    rw [Addressed.drain, if_neg (Int.not_lt.mpr few), Addressed.drain]
  · intro span first final
    refine ⟨Pending.weight [⟨span, 1⟩], fun lost => funext fun items => funext fun tally => ?_⟩
    have ran := Addressed.run_drain order lost tooDeep _ [⟨span, 1⟩] (Nat.le_refl _) items tally
    have entry : Addressed.entry ⟨span, 1⟩ = (low, high, 1) := by
      simp only [Addressed.entry, first, ← final, Int.add_sub_cancel]
    rw [List.map_singleton, entry] at ran
    exact ran
  · intro other turns lowest highest within
    exact Addressed.drain_keeps other tooDeep turns _ (List.forall_mem_singleton.mpr within)

/-- A refusal that would name an integer with too many digits is not met: under the usual limit the
error of the runtime is met in its place, and without a limit the refusal is. The bench is left as
it is either way. -/
theorem Guarded.refused_of_long (guarded : Guarded bench operation checks positions script)
    {cause : Precondition} (first : FirstViolated checks cause)
    (long : ¬ ∀ number ∈ cause.numbers, Numeral.IsShort number) :
    operation.raising usualLimit bench = (.error (.unwritten mostDigits), bench) ∧
      operation.raising none bench = (.error (.precondition cause), bench) := by
  refine ⟨(guarded.refused usualLimit cause first).trans ?_, guarded.refused none cause first⟩
  have unwritten : (Fault.precondition cause).raised usualLimit = .unwritten mostDigits := by
    rw [Fault.raised_usual]
    exact if_neg long
  rw [unwritten]

/-- So an exchange at a position with too many digits is never refused in words, on any bench that
is not as large itself. The case is not an idle one: it is how the checks above fall short of what a
caller may expect of them on a runtime with a limit. -/
theorem swap_of_long {bench : Bench} (fits : Numeral.IsShort bench.values.size) {a : Int}
    (long : ¬ Numeral.IsShort a) (b : Int) :
    (swap a b).raising usualLimit bench = (.error (.unwritten mostDigits), bench) ∧
      (swap a b).raising none bench =
        (.error (.precondition (.indexOutOfBounds a bench.values.size)), bench) := by
  have outside : a < 0 ∨ bench.values.size ≤ a := by
    by_contra inside
    obtain ⟨natural, rfl⟩ := Int.eq_ofNat_of_zero_le (a := a) (by omega)
    exact long (fits.of_le (by omega))
  apply (swap_guarded bench a b).refused_of_long (.here outside)
  intro short
  exact long (short a (List.mem_singleton_self _))

end Bench

end SortBench
