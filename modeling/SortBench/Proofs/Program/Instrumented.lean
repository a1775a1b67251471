import SortBench.Proofs.Bench.Guarded
import SortBench.Proofs.Program.Conservation
import SortBench.Proofs.Sorting.Tracked

/-!
# Tasks as scripts

A task of the bench is a script: it checks its arguments against the length of the array and then
reads, writes and counts step by step. The script is the same for all arrays of one length, and each
of its steps that count does so only where work is counted. All that is said of scripts holds of
tasks: the count is transparent, it adds to whatever was counted before, and what becomes of the
positions of a task does not depend on any other position.
-/

namespace SortBench

open Sorting

namespace Bench

/-- Carry out a script on a bench. Where work is not counted, no step counts. -/
def carryOut {β : Type} (lost : Fault) (script : Script Value Fault β) (bench : Bench) :
    Except Fault β × Bench :=
  let (result, items, tally) := script.track lost bench.values.toVector bench.tally
  (result, { values := items.toArray, tally })

/-- Go on with a script unless a condition is violated. -/
def checked {condition : Prop} {β : Type} (requirement : Requirement condition)
    (script : Script Value Fault β) : Script Value Fault β :=
  match requirement with
  | .violated cause => .failed (.precondition cause)
  | .met _ => script

/-- The exchange of two positions as a script. -/
def swapScript (length : Nat) (a b : Int) : Script Value Fault Unit :=
  checked (requireIndex length a) (checked (requireIndex length b) (.exchange a b (.done ())))

/-- The bubble sort as a script. The number of passes that it may make is bounded by the size, which
is never reached. -/
def bubbleScript (length : Nat) (size : Int) : Script Value Fault Unit :=
  checked (requireSize length size) (Addressed.bubble order size size.toNat)

/-- The partition as a script. -/
def partitionScript (length : Nat) (low high : Int) : Script Value Fault Nat :=
  if high < low then .failed (.precondition (.emptyRange low high))
  else
    checked (requireRange length low high)
      ((Addressed.partition order low high).bind fun pivot => .done pivot.toNat)

/-- The sort of a range as a script, given a script for ranges of several positions. -/
def rangeScript (length : Nat) (low high : Int) (script : Script Value Fault Unit) :
    Script Value Fault Unit :=
  if high ≤ low then .done () else checked (requireRange length low high) script

/-- The recursive quicksort as a script. -/
def quickScript (length : Nat) (low high : Int) : Script Value Fault Unit :=
  rangeScript length low high (Addressed.quick order tooDeep deepestLevel 1 low high)

/-- The quicksort over a stack as a script. A range of so many positions takes at most twice as many
turns and one. -/
def stackScript (length : Nat) (low high : Int) : Script Value Fault Unit :=
  rangeScript length low high
    (Addressed.drain order tooDeep (2 * (high + 1 - low).toNat + 1) [(low, high, 1)])

/-- The built-in algorithm of a name as a script. -/
def algorithmScript (length : Nat) (name : Text) : Script Value Fault Unit :=
  if name = "bubble" then bubbleScript length length
  else if name = "quick" then quickScript length 0 (length - 1)
  else if name = "quick_iterative" then stackScript length 0 (length - 1)
  else .failed (.precondition (.unknownAlgorithm name Registry.builtIn.names))

section

variable {β γ : Type} (lost : Fault) (bench : Bench)

/-- A step that is a script is carried out as the script. -/
theorem perform_run (script : Script Value Fault β) :
    perform bench (script.run lost) = carryOut lost script bench := by
  obtain ⟨values, tally⟩ := bench
  unfold perform carryOut
  cases tally with
  | none =>
    rw [Script.track_none lost script _ {}]
    rfl
  | some tally =>
    rw [Script.track_some]
    rfl

/-- A script with a function of its answer. -/
theorem carryOut_bind (script : Script Value Fault β) (answer : β → γ) :
    carryOut lost (script.bind fun given => .done (answer given)) bench =
      ((carryOut lost script bench).1.map answer, (carryOut lost script bench).2) := by
  obtain ⟨values, tally⟩ := bench
  have ran (tally : Tally) : (script.bind fun given => .done (answer given)).run lost
      values.toVector tally = (script.run lost values.toVector tally).andThen
        fun items tally given => .done items tally (answer given) :=
    Script.run_bind lost _ tally script _
  have mapped (outcome : Outcome Value Fault β values.size) :
      outcome.andThen (fun items tally given => .done items tally (answer given)) =
        ⟨outcome.items, outcome.tally, outcome.result.map answer⟩ := by
    obtain ⟨items, tally, given, rfl⟩ | ⟨items, tally, fault, rfl⟩ := outcome.done_or_failed
    · rfl
    · rfl
  unfold carryOut
  cases tally with
  | none => simp only [Script.track_none lost _ _ {}, ran, mapped]
  | some tally => simp only [Script.track_some, ran, mapped]

/-- The exchange of two positions is its script. Here and below, the operation counts in its own way
and the script in the one way that all scripts have; that they agree is what is to be shown. -/
theorem swap_eq (a b : Int) :
    swap a b bench = carryOut lost (swapScript bench.values.size a b) bench := by
  unfold swap swapScript
  cases requireIndex bench.values.size a with
  | violated cause => rfl
  | met first =>
    cases requireIndex bench.values.size b with
    | violated cause => rfl
    | met second =>
      obtain ⟨i, rfl⟩ := Int.eq_ofNat_of_zero_le first.1
      obtain ⟨j, rfl⟩ := Int.eq_ofNat_of_zero_le second.1
      have exchanged := perform_run lost bench (.exchange i j (.done ()))
      rw [perform, Script.run_exchange lost _ _ rfl rfl (Int.ofNat_lt.mp first.2)
        (Int.ofNat_lt.mp second.2)] at exchanged
      rw [checked, checked, ← exchanged]
      cases bench with
      | mk values tally => cases tally <;> rfl

/-- The bubble sort is its script. -/
theorem bubbleSort_eq (size : Int) :
    bubbleSort size bench = carryOut lost (bubbleScript bench.values.size size) bench := by
  unfold bubbleSort bubbleScript
  cases requireSize bench.values.size size with
  | violated cause => rfl
  | met inside =>
    obtain ⟨count, rfl⟩ := Int.eq_ofNat_of_zero_le inside.1
    rw [checked, ← perform_run]
    refine congrArg (perform bench) ?_
    funext items tally
    exact (Addressed.run_bubble order lost count _ items tally).symm

theorem partition_eq (low high : Int) :
    partition low high bench =
      carryOut lost (partitionScript bench.values.size low high) bench := by
  unfold partition partitionScript
  by_cases empty : high < low
  · rw [dif_pos empty, if_pos empty]
    rfl
  · rw [dif_neg empty, if_neg empty]
    cases requireRange bench.values.size low high with
    | violated cause => rfl
    | met inside =>
      have first : low = (span (Int.not_lt.mp empty) inside).start := by simp only [span]; omega
      have final : high + 1 = (span (Int.not_lt.mp empty) inside).stop := by
        simp only [span]
        omega
      rw [checked, ← perform_run]
      refine congrArg (perform bench) ?_
      funext items tally
      rw [Script.run_bind, Addressed.run_partition order lost _ (by omega) first final,
        Outcome.andThen_andThen]
      rfl

/-- The sort of a range is its script, if the sort of its span is. The checks are the same in both,
made in one order. -/
theorem sortRange_eq (low high : Int) (sort : SpanSort) (script : Script Value Fault Unit)
    (runs : ∀ span : Span bench.values.size, low = span.start → high + 1 = span.stop →
      script.run lost = sort span) :
    sortRange low high sort bench =
      carryOut lost (rangeScript bench.values.size low high script) bench := by
  unfold sortRange rangeScript
  by_cases few : high ≤ low
  · rw [dif_pos few, if_pos few]
    rfl
  · rw [dif_neg few, if_neg few]
    cases requireRange bench.values.size low high with
    | violated cause => rfl
    | met inside =>
      rw [checked, ← perform_run, runs (span (by omega) inside) (by simp only [span]; omega)
        (by simp only [span]; omega)]

/-- The recursive quicksort is its script. -/
theorem quickSort_eq (low high : Int) :
    quickSort low high bench = carryOut lost (quickScript bench.values.size low high) bench := by
  refine sortRange_eq lost bench low high _ _ fun span first final => ?_
  exact funext fun items => funext fun tally =>
    Addressed.run_quick order lost tooDeep deepestLevel 1 span first final items tally

/-- The quicksort over a stack is its script. -/
theorem quickSortIterative_eq (low high : Int) :
    quickSortIterative low high bench =
      carryOut lost (stackScript bench.values.size low high) bench := by
  refine sortRange_eq lost bench low high _ _ fun span first final => ?_
  have turns : 2 * (high + 1 - low).toNat + 1 = Pending.weight [⟨span, 1⟩] := by
    simp only [Pending.weight, Span.size]
    omega
  have entry : (low, high, 1) = Addressed.entry ⟨span, 1⟩ := by
    simp only [Addressed.entry, first, ← final, Int.add_sub_cancel]
  rw [turns, entry]
  exact funext fun items => funext fun tally =>
    Addressed.run_drain order lost tooDeep _ [⟨span, 1⟩] (Nat.le_refl _) items tally

/-- A built-in algorithm is its script, and so is the refusal of any other. -/
theorem builtIn_sort_eq (name : Text) :
    Registry.builtIn.sort name bench =
      carryOut lost (algorithmScript bench.values.size name) bench := by
  unfold Registry.sort algorithmScript
  obtain ⟨rfl, found⟩ | ⟨rfl, found⟩ | ⟨rfl, found⟩ | ⟨unknown, found⟩ :=
    Registry.builtIn_cases name
  · rw [found]
    exact bubbleSort_eq lost bench _
  · rw [found]
    exact quickSort_eq lost bench _ _
  · rw [found]
    exact quickSortIterative_eq lost bench _ _
  · rw [found, if_neg, if_neg, if_neg]
    · rfl
    all_goals
      rintro rfl
      exact unknown (by decide)

end

section

variable {β : Type} {script : Script Value Fault β}

/-- A check counts nothing. -/
theorem checked_additive {condition : Prop} {requirement : Requirement condition}
    (additive : script.Additive) : (checked requirement script).Additive := by
  cases requirement with
  | violated cause => trivial
  | met inside => exact additive

/-- A check touches no position; after it the condition is known, which is what the script behind it
needs to stay in the array. -/
theorem checked_keeps {condition : Prop} {requirement : Requirement condition}
    {positions : Int → Prop}
    (keeps : condition → script.Keeps positions (fun _ => True) fun _ => True) :
    (checked requirement script).Keeps positions (fun _ => True) fun _ => True := by
  cases requirement with
  | violated cause => trivial
  | met inside => exact keeps inside

end

end Bench

namespace Task

open Bench

/-- A task as a script for arrays of a length. -/
def script (length : Nat) : Task → Script Value Fault (Option Nat)
  | swap a b => (swapScript length a b).bind fun _ => .done none
  | bubbleSort size => (bubbleScript length size).bind fun _ => .done none
  | partition low high => (partitionScript length low high).bind fun pivot => .done (some pivot)
  | quickSort low high => (quickScript length low high).bind fun _ => .done none
  | quickSortIterative low high => (stackScript length low high).bind fun _ => .done none
  | sort algorithm => (algorithmScript length algorithm).bind fun _ => .done none

/-- A task is its script, with whatever error for lost places, as no place is ever lost. -/
theorem perform_eq (lost : Fault) (task : Task) (bench : Bench) :
    task.perform .builtIn bench = carryOut lost (task.script bench.values.size) bench := by
  cases task with
  | swap a b =>
    rw [script, carryOut_bind, ← swap_eq]
    rfl
  | bubbleSort size =>
    rw [script, carryOut_bind, ← bubbleSort_eq]
    rfl
  | partition low high =>
    rw [script, carryOut_bind, ← partition_eq]
    rfl
  | quickSort low high =>
    rw [script, carryOut_bind, ← quickSort_eq]
    rfl
  | quickSortIterative low high =>
    rw [script, carryOut_bind, ← quickSortIterative_eq]
    rfl
  | sort algorithm =>
    rw [script, carryOut_bind, ← builtIn_sort_eq]
    rfl

/-- A task only adds to the tally, and never looks at it. That is the whole reason why counting is
transparent. -/
theorem script_additive (length : Nat) (task : Task) : (task.script length).Additive := by
  have bubble (size : Int) : (bubbleScript length size).Additive :=
    checked_additive (Addressed.bubble_additive ..)
  have range (low high : Int) {inner : Script Value Fault Unit} (additive : inner.Additive) :
      (rangeScript length low high inner).Additive := by
    unfold rangeScript
    split
    · trivial
    · exact checked_additive additive
  have quick (low high : Int) : (quickScript length low high).Additive :=
    range low high (Addressed.quick_additive ..)
  have stack (low high : Int) : (stackScript length low high).Additive :=
    range low high (Addressed.drain_additive ..)
  cases task with
  | swap a b =>
    refine Script.Additive.bind ?_ fun _ => trivial
    exact checked_additive (checked_additive (.exchange trivial))
  | bubbleSort size => exact (bubble size).bind fun _ => trivial
  | partition low high =>
    refine Script.Additive.bind ?_ fun _ => trivial
    unfold partitionScript
    split
    · trivial
    · exact checked_additive ((Addressed.partition_additive order low high).bind fun _ => trivial)
  | quickSort low high => exact (quick low high).bind fun _ => trivial
  | quickSortIterative low high => exact (stack low high).bind fun _ => trivial
  | sort algorithm =>
    refine Script.Additive.bind ?_ fun _ => trivial
    unfold algorithmScript
    split_ifs
    · exact bubble length
    · exact quick 0 (length - 1)
    · exact stack 0 (length - 1)
    · trivial

/-- What a task makes of an array: its outcome, the array afterwards and the work. -/
structure Effect where
  /-- The answer, or the fault that ended the task. -/
  outcome : Except Fault (Option Nat)
  /-- The array afterwards. -/
  values : Array Value
  /-- The work, counted from nothing. -/
  work : Tally

/-- What a task makes of an array when it counts from nothing. -/
def effect (task : Task) (values : Array Value) : Effect :=
  let counted := (task.script values.size).run tooDeep values.toVector {}
  ⟨counted.result, counted.items.toArray, counted.tally⟩

/-- A task has its effect whatever was counted before, and if nothing is counted; its work is
counted on top of what was counted before. -/
theorem perform_effect (task : Task) (values : Array Value) (tally : Option Tally) :
    task.perform .builtIn { values, tally } =
      ((task.effect values).outcome,
        { values := (task.effect values).values
          tally := tally.map fun earlier => earlier.merge (task.effect values).work }) := by
  rw [task.perform_eq tooDeep]
  unfold carryOut effect
  cases tally with
  | none =>
    rw [Script.track_none _ _ _ {}]
    rfl
  | some earlier =>
    have onTop := (task.script_additive values.size).run_onTop tooDeep values.toVector earlier {}
    rw [Tally.merge_empty] at onTop
    rw [Script.track_some, onTop]
    rfl

/-- Instrumentation is transparent and additive. Whatever the array and the arguments, a task is
the run of its script, in which a step counts only where there is a tally. The outcome, be it an
answer or an error, and the array afterwards are the same without a tally, from nothing and from any
earlier tally; and from an earlier tally is left what was counted earlier merged with what is
counted from nothing: the deepest level is the greater of the two, all other figures add up.

Proof: each operation is shown to be its script, and a script counts by adding alone. So its work is
that from nothing, put on top of what was there before. -/
theorem perform_instrumented (task : Task) (values : Array Value) :
    (∀ lost tally, task.perform .builtIn { values, tally } =
        carryOut lost (task.script values.size) { values, tally }) ∧
      ∃ outcome after work,
        task.perform .builtIn { values, tally := none } =
            (outcome, { values := after, tally := none }) ∧
          task.perform .builtIn { values, tally := some {} } =
            (outcome, { values := after, tally := some work }) ∧
          ∀ earlier, task.perform .builtIn { values, tally := some earlier } =
            (outcome, { values := after, tally := some (earlier.merge work) }) := by
  refine ⟨fun lost tally => task.perform_eq lost { values, tally }, ?_⟩
  refine ⟨(task.effect values).outcome, (task.effect values).values, (task.effect values).work,
    task.perform_effect values none, ?_, fun earlier => task.perform_effect values (some earlier)⟩
  have fromNothing := task.perform_effect values (some {})
  rw [Option.map_some, Tally.empty_merge] at fromNothing
  exact fromNothing

end Task

end SortBench
