import SortBench.Sorting.Bubble
import SortBench.Sorting.Pending
import SortBench.Sorting.Quick

/-!
# What one step does

Each loop and each recursion of the sorts, opened once: a comparison has three answers, a span
has fewer than two items or is partitioned, and a stack is empty or has a top. The laws of the
following modules are inductions over these steps and open no definition again.
-/

namespace SortBench.Sorting

variable {α ε β γ : Type} {n : Nat}

namespace Outcome

@[simp]
theorem andThen_done (items : Vector α n) (tally : Tally) (answer : β)
    (next : Vector α n → Tally → β → Outcome α ε γ n) :
    (done items tally answer).andThen next = next items tally answer :=
  rfl

@[simp]
theorem andThen_failed (items : Vector α n) (tally : Tally) (error : ε)
    (next : Vector α n → Tally → β → Outcome α ε γ n) :
    (failed items tally error).andThen next = failed items tally error :=
  rfl

/-- An outcome is a step that ended well or one that an error ended; in both cases the items and the
tally are there. Case splits on outcomes are made by it. -/
theorem done_or_failed (outcome : Outcome α ε β n) :
    (∃ items tally answer, outcome = done items tally answer) ∨
      ∃ items tally error, outcome = failed items tally error := by
  obtain ⟨items, tally, result⟩ := outcome
  cases result with
  | ok answer => exact Or.inl ⟨items, tally, answer, rfl⟩
  | error error => exact Or.inr ⟨items, tally, error, rfl⟩

/-- Three steps in a row can be grouped either way, so a sequence may be read from its front or from
its end. -/
theorem andThen_andThen {δ : Type} (outcome : Outcome α ε β n)
    (second : Vector α n → Tally → β → Outcome α ε γ n)
    (third : Vector α n → Tally → γ → Outcome α ε δ n) :
    (outcome.andThen second).andThen third =
      outcome.andThen fun items tally answer => (second items tally answer).andThen third := by
  obtain ⟨items, tally, answer, rfl⟩ | ⟨items, tally, error, rfl⟩ := outcome.done_or_failed <;> rfl

theorem andThen_finish (outcome : Outcome α ε Unit n) :
    (outcome.andThen fun items tally _ => done items tally ()) = outcome := by
  obtain ⟨items, tally, answer, rfl⟩ | ⟨items, tally, error, rfl⟩ := outcome.done_or_failed <;> rfl

/-- What holds of the items of an outcome holds of those that it is known to have left. -/
theorem items_of_done {holds : Vector α n → Prop} {outcome : Outcome α ε β n}
    {items : Vector α n} {tally : Tally} {answer : β} (ended : outcome = done items tally answer)
    (held : holds outcome.items) : holds items := by
  subst ended
  exact held

/-- What both steps of a sequence keep, the sequence keeps, also when the first one fails.
Conservation of the items is proved with it for every algorithm. -/
theorem andThen_items {holds : Vector α n → Prop} (outcome : Outcome α ε β n)
    (next : Vector α n → Tally → β → Outcome α ε γ n) (first : holds outcome.items)
    (second : ∀ items tally answer, holds items → holds (next items tally answer).items) :
    holds (outcome.andThen next).items := by
  obtain ⟨items, tally, answer, rfl⟩ | ⟨items, tally, error, rfl⟩ := outcome.done_or_failed
  · exact second items tally answer first
  · exact first

/-- A sequence ends well when both its steps do, and only then. The intermediate items, tally and
answer are named for the second step. -/
theorem andThen_result_ok {outcome : Outcome α ε β n}
    {next : Vector α n → Tally → β → Outcome α ε γ n} {answer : γ}
    (ended : (outcome.andThen next).result = .ok answer) :
    ∃ items tally between, outcome = done items tally between ∧
      (next items tally between).result = .ok answer := by
  obtain ⟨items, tally, between, rfl⟩ | ⟨items, tally, error, rfl⟩ := outcome.done_or_failed
  · exact ⟨items, tally, between, rfl, ended⟩
  · contradiction

/-- A sequence whose second step always ends well fails only as its first step does, with the same
items and the same work counted. -/
theorem failed_of_andThen {outcome : Outcome α ε β n}
    {next : Vector α n → Tally → β → Outcome α ε γ n} {items : Vector α n} {tally : Tally}
    {error : ε} (well : ∀ items tally between, ∃ answer,
      (next items tally between).result = .ok answer)
    (ended : outcome.andThen next = failed items tally error) :
    outcome = failed items tally error := by
  obtain ⟨between, earlier, answer, rfl⟩ | ⟨between, earlier, refusal, rfl⟩ :=
    outcome.done_or_failed
  · obtain ⟨later, finished⟩ := well between earlier answer
    rw [andThen_done] at ended
    rw [ended] at finished
    cases finished
  · rw [andThen_failed] at ended
    cases ended
    rfl

end Outcome

theorem Span.start_lt_stop (span : Span n) (several : 2 ≤ span.size) :
    span.start < span.stop := by
  unfold Span.size at several
  omega

theorem Span.start_le_succ {span : Span n} {store : Nat} (lower : span.start ≤ store) :
    span.start ≤ store + 1 :=
  Nat.le_succ_of_le lower

theorem Span.next_lt_stop {span : Span n} {remaining j : Nat}
    (upper : j + (remaining + 1) < span.stop) : j + 1 + remaining < span.stop := by
  omega

namespace Partition

section

variable (order : Comparison α ε) (span : Span n) (pivot : α) {remaining store j : Nat}
  (lower : span.start ≤ store) (behind : store ≤ j) (upper : j + (remaining + 1) < span.stop)
  (inside : j < n) (items : Vector α n) (tally : Tally)

/-- A refused comparison ends the scan; it is counted, since it is counted before it is made. -/
theorem scan_refused {error : ε} (answer : order.le items[j] pivot = .error error) :
    scan order span pivot (remaining + 1) store j lower behind upper items tally =
      .failed items tally.compared error := by
  simp only [scan, answer]

/-- An item that is greater than the pivot stays where it is, and the scan goes on behind it. The
comparison is counted. -/
theorem scan_greater (answer : order.le items[j] pivot = .ok false) :
    scan order span pivot (remaining + 1) store j lower behind upper items tally =
      scan order span pivot remaining store (j + 1) lower (Nat.le_succ_of_le behind)
        (Span.next_lt_stop upper) items tally.compared := by
  simp only [scan, answer]

/-- An item that is not greater than the pivot goes to the end of those found so far, by an exchange
with the first item that was found greater, or with itself. -/
theorem scan_notGreater (answer : order.le items[j] pivot = .ok true) :
    scan order span pivot (remaining + 1) store j lower behind upper items tally =
      scan order span pivot remaining (store + 1) (j + 1) (Span.start_le_succ lower)
        (Nat.succ_le_succ behind) (Span.next_lt_stop upper)
        (items.swap store j (Nat.lt_of_le_of_lt behind inside) inside) tally.compared.swapped := by
  simp only [scan, answer]

end

end Partition

namespace Quick

variable (order : Comparison α ε) (exhausted : ε) (depth : Nat) (span : Span n)
  (items : Vector α n) (tally : Tally)

/-- A span of fewer than two items is sorted, whatever the room and the comparisons. Nothing is
counted, not even its level. -/
theorem sort_trivial (room : Nat) (few : ¬ 2 ≤ span.size) :
    sort order exhausted room depth span items tally = .done items tally () := by
  cases room <;> simp only [sort, few, ↓reduceIte, ↓reduceDIte]

/-- Without room no span of two items is partitioned. The sort gives up before it compares
anything. -/
theorem sort_without_room (several : 2 ≤ span.size) :
    sort order exhausted 0 depth span items tally = .failed items tally exhausted := by
  simp only [sort, several, ↓reduceIte]

/-- With room a span of two items is partitioned, then its two parts are sorted, one level deeper
and with less room; the part before the pivot comes first. -/
theorem sort_several (room : Nat) (several : 2 ≤ span.size) :
    sort order exhausted (room + 1) depth span items tally =
      (Partition.run order span (span.start_lt_stop several) items (tally.reached depth)).andThen
        fun items tally pivot =>
          (sort order exhausted room (depth + 1) (span.before pivot) items tally).andThen
            fun items tally _ =>
              sort order exhausted room (depth + 1) (span.after pivot) items tally := by
  simp only [sort, several, ↓reduceDIte]

end Quick

namespace Pending

variable (order : Comparison α ε) (top : Pending n) (rest : List (Pending n))
  (items : Vector α n) (tally : Tally)

theorem drain_nil : drain order [] items tally = .done items tally () := by
  rw [drain]

theorem drain_trivial (few : ¬ 2 ≤ top.span.size) :
    drain order (top :: rest) items tally = drain order rest items tally := by
  rw [drain]
  simp only [turn, few, ↓reduceDIte, Outcome.done]

/-- Any other top span is partitioned, and its two parts take its place. Both are pushed, whether or
not there is anything to sort in them. -/
theorem drain_several (several : 2 ≤ top.span.size) :
    drain order (top :: rest) items tally =
      (Partition.run order top.span (top.span.start_lt_stop several) items
          (tally.reached top.depth)).andThen
        fun items tally pivot => drain order (top.split pivot rest) items tally := by
  rw [drain]
  simp only [turn, several, ↓reduceDIte]
  obtain ⟨after, counted, pivot, ended⟩ | ⟨after, counted, error, ended⟩ :=
    (Partition.run order top.span (top.span.start_lt_stop several) items
      (tally.reached top.depth)).done_or_failed
  · rw [ended]
    rfl
  · rw [ended]
    rfl

end Pending

namespace Bubble

theorem next_inside {pairs i : Nat} (inside : i + (pairs + 1) < n) : i + 1 + pairs < n := by
  omega

theorem start_inside {pairs : Nat} (inside : pairs < n) : 0 + pairs < n := by
  omega

section

variable (order : Comparison α ε) {pairs i : Nat} (inside : i + (pairs + 1) < n) {first : i < n}
  {second : i + 1 < n} (items : Vector α n) (tally : Tally) (exchanged : Bool)

/-- A refused comparison ends the pass; it is counted, and the exchanges made before remain. -/
theorem sweep_refused {error : ε} (answer : order.gt items[i] items[i + 1] = .error error) :
    sweep order (pairs + 1) i inside items tally exchanged =
      .failed items tally.compared error := by
  simp only [sweep, answer]

/-- A pair whose first item is not greater stays as it is, also where the items tie, which is why
the sort is stable. -/
theorem sweep_notGreater (answer : order.gt items[i] items[i + 1] = .ok false) :
    sweep order (pairs + 1) i inside items tally exchanged =
      sweep order pairs (i + 1) (next_inside inside) items tally.compared exchanged := by
  simp only [sweep, answer]

/-- A pair whose first item is greater is exchanged, and the flag is raised. -/
theorem sweep_greater (answer : order.gt items[i] items[i + 1] = .ok true) :
    sweep order (pairs + 1) i inside items tally exchanged =
      sweep order pairs (i + 1) (next_inside inside) (items.swap i (i + 1) first second)
        tally.compared.swapped true := by
  simp only [sweep, answer]

end

/-- One pass, and further ones if it exchanged anything. The limit counts the passes that are still
allowed. -/
theorem passes_succ (order : Comparison α ε) (pairs : Nat) (inside : pairs < n) (limit : Nat)
    (items : Vector α n) (tally : Tally) :
    passes order pairs inside (limit + 1) items tally =
      (sweep order pairs 0 (start_inside inside) items tally false).andThen
        fun items tally exchanged =>
          if exchanged then passes order pairs inside limit items tally.passed
          else .done items tally.passed () :=
  rfl

end Bubble

end SortBench.Sorting
