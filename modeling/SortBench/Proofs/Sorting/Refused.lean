import SortBench.Proofs.Sorting.Ascending
import SortBench.Proofs.Sorting.Passes

/-!
# Refused comparisons

Where items are of kinds and two of them can be compared exactly if they are of one kind, a pass of
the bubble sort that comes to its end has found all items to be of one kind: each comparison is with
the item carried along, and whichever of the two is carried on, it is of the kind of the first one.
So a pass ends well only if all later ones do. A partition compares every item with the last one,
and the same holds of it. What is refused is thus refused in the first round.
-/

namespace SortBench.Sorting

variable {α ε κ : Type} {n : Nat}

/-- Two items of one kind can be compared, and two that can be compared are of one kind. An item
without a kind can be compared with none, not even with itself. Numbers, texts and keyed items are
three kinds. -/
structure Comparison.Kinds (order : Comparison α ε) (kind : α → Option κ) : Prop where
  /-- The first comparison is answered for items of one kind. -/
  le_iff : ∀ a b, (∃ answer, order.le a b = .ok answer) ↔ ∃ k, kind a = some k ∧ kind b = some k
  /-- So is the second one. -/
  gt_iff : ∀ a b, (∃ answer, order.gt a b = .ok answer) ↔ ∃ k, kind a = some k ∧ kind b = some k

namespace Comparison.Kinds

variable {order : Comparison α ε} {kind : α → Option κ}

theorem answers (kinds : order.Kinds kind) (k : κ) : order.Answers fun item => kind item = some k :=
  fun a b left right => (kinds.le_iff a b).mpr ⟨k, left, right⟩

theorem tells (kinds : order.Kinds kind) (k : κ) : order.Tells fun item => kind item = some k :=
  fun a b left right => (kinds.gt_iff a b).mpr ⟨k, left, right⟩

/-- Kinds are those of the comparisons with their refusals put in other terms, since the answers are
the same. -/
theorem mapError {δ : Type} (kinds : order.Kinds kind) (restate : ε → δ) :
    (order.mapError restate).Kinds kind := by
  constructor
  · intro a b
    rw [← kinds.le_iff a b]
    exact exists_congr fun answer => mapError_eq_ok
  · intro a b
    rw [← kinds.gt_iff a b]
    exact exists_congr fun answer => mapError_eq_ok

end Comparison.Kinds

/-- A sort is decided by its first round: either there is something to refuse, and the sort fails as
its first round does, or there is not, and both end well. No later round can be the one that
fails. -/
def Outcome.DecidedBy (whole first : Outcome α ε Unit n) (refused : Prop) : Prop :=
  (refused ∧ ∃ items tally error,
      first = .failed items tally error ∧ whole = .failed items tally error) ∨
    (¬ refused ∧ first.result = .ok () ∧ whole.result = .ok ())

/-- A sort that fails when its first round does, and that ends well where there is nothing to
refuse, is decided by a first round that ends well only there. -/
theorem Outcome.decidedBy {whole first : Outcome α ε Unit n} {refused : Prop}
    (fails : ∀ items tally error,
      first = .failed items tally error → whole = .failed items tally error)
    (admits : first.result = .ok () → ¬ refused)
    (completes : ¬ refused → whole.result = .ok ()) : whole.DecidedBy first refused := by
  obtain ⟨items, tally, answer, ended⟩ | ⟨items, tally, error, ended⟩ := first.done_or_failed
  · have well : first.result = .ok () := by rw [ended]; rfl
    exact Or.inr ⟨admits well, well, completes (admits well)⟩
  · have failed := fails items tally error ended
    refine Or.inl ⟨Classical.byContradiction fun admitted => ?_, items, tally, error, ended, failed⟩
    have well := completes admitted
    rw [failed] at well
    cases well

namespace Bubble

variable {order : Comparison α ε} {kind : α → Option κ} {among : α → Prop}

/-- A pass that ends well has found the items that it came to of the kind of the one that it
carried. Each is compared with the one carried at that point, which is of the same kind by the steps
before. -/
theorem kind_of_sweep (kinds : order.Kinds kind) {before rest after : List α} {held : α} {i : Nat}
    {k : κ} (inside : i + rest.length < n) (items : Vector α n) (tally : Tally) (exchanged : Bool)
    (shape : items.toList = before ++ held :: (rest ++ after)) (position : i = before.length)
    (heldKind : kind held = some k) {swept : Vector α n} {counted : Tally} {flag : Bool}
    (ended : sweep order rest.length i inside items tally exchanged = .done swept counted flag) :
    ∀ item ∈ rest, kind item = some k := by
  induction rest generalizing i items tally exchanged before held with
  | nil => exact fun _ member => absurd member List.not_mem_nil
  | cons next rest inductionHypothesis =>
    have following : items.toList = (before ++ [held]) ++ next :: (rest ++ after) := by
      simp [shape]
    simp only [List.length_cons] at inside ended
    have first : items[i] = held := getElem_of_toList shape position (by omega)
    have second : items[i + 1] = next := getElem_of_toList following (by simp [position]) (by omega)
    cases answer : order.gt items[i] items[i + 1] with
    | error error =>
      rw [sweep_refused order inside items tally exchanged answer] at ended
      cases ended
    | ok greater =>
      obtain ⟨other, heldOther, nextKind⟩ := (kinds.gt_iff _ _).mp ⟨greater, answer⟩
      rw [first] at heldOther
      rw [second] at nextKind
      obtain rfl : other = k := Option.some.inj (heldOther.symm.trans heldKind)
      refine List.forall_mem_cons.mpr ⟨nextKind, ?_⟩
      -- Whichever of the two is carried on, it is of the kind of the first one.
      cases greater with
      | false =>
        rw [sweep_notGreater order inside items tally exchanged answer] at ended
        exact inductionHypothesis (next_inside inside) items _ _ following (by simp [position])
          nextKind ended
      | true =>
        rw [sweep_greater order inside items tally exchanged answer] at ended
        have swapped : (items.swap i (i + 1)).toList =
            (before ++ [next]) ++ held :: (rest ++ after) := by
          simpa using toList_swap_next shape position (by omega) (by omega)
        exact inductionHypothesis (next_inside inside) _ _ _ swapped (by simp [position]) heldKind
          ended

/-- A pass over two items or more that ends well has found all of them of one kind. A single item
would not have been compared, and so might have no kind. -/
theorem exists_kind_of_sweep (kinds : order.Kinds kind) {front after : List α} {pairs : Nat}
    (several : 0 < pairs) (inside : 0 + pairs < n) (items : Vector α n) (tally : Tally)
    (shape : items.toList = front ++ after) (length : front.length = pairs + 1)
    {swept : Vector α n} {counted : Tally} {flag : Bool}
    (ended : sweep order pairs 0 inside items tally false = .done swept counted flag) :
    ∃ k, ∀ item ∈ front, kind item = some k := by
  obtain ⟨held, rest, rfl⟩ := List.exists_cons_of_length_eq_add_one length
  obtain rfl : rest.length = pairs := by simpa using length
  obtain ⟨k, heldKind⟩ : ∃ k, kind held = some k := by
    obtain ⟨next, rest, rfl⟩ := List.exists_cons_of_length_pos several
    simp only [List.length_cons] at ended inside
    have shapeAtFirst : items.toList = [] ++ held :: (next :: (rest ++ after)) := shape
    have first : items[0] = held := getElem_of_toList (i := 0) shapeAtFirst rfl (by omega)
    cases answer : order.gt items[0] items[0 + 1] with
    | error error =>
      rw [sweep_refused order inside items tally false answer] at ended
      cases ended
    | ok greater =>
      obtain ⟨k, heldKind, _⟩ := (kinds.gt_iff _ _).mp ⟨greater, answer⟩
      exact ⟨k, first ▸ heldKind⟩
  refine ⟨k, List.forall_mem_cons.mpr ⟨heldKind, ?_⟩⟩
  exact kind_of_sweep kinds inside items tally false
    (show items.toList = [] ++ held :: (rest ++ after) from shape) rfl heldKind ended

/-- A pass that fails does so for a comparison that was refused, and is not counted. The comparison
is, as it is counted before it is made. -/
theorem sweep_failed {pairs i : Nat} {inside : i + pairs < n} {items after : Vector α n}
    {tally counted : Tally} {exchanged : Bool} {error : ε}
    (ended : sweep order pairs i inside items tally exchanged = .failed after counted error) :
    (∃ a b, order.gt a b = .error error) ∧ counted.passes = tally.passes ∧
      counted.partitions = tally.partitions := by
  induction pairs generalizing i items tally exchanged with
  | zero => cases ended
  | succ pairs inductionHypothesis =>
    cases answer : order.gt items[i] items[i + 1] with
    | error refusal =>
      rw [sweep_refused order inside items tally exchanged answer] at ended
      cases ended
      exact ⟨⟨_, _, answer⟩, rfl, rfl⟩
    | ok greater =>
      cases greater with
      | false =>
        rw [sweep_notGreater order inside items tally exchanged answer] at ended
        exact (inductionHypothesis ended :)
      | true =>
        rw [sweep_greater order inside items tally exchanged answer] at ended
        exact (inductionHypothesis ended :)

/-- Passes over items of which it can be told whether one is greater end well. Neither an order nor
a bound on their number is needed: the limit ends them if nothing else does. -/
theorem passes_completes (tells : order.Tells among) {pairs : Nat} (inside : pairs < n)
    (limit : Nat) (items : Vector α n) (tally : Tally) {front after : List α}
    (shape : items.toList = front ++ after) (length : front.length = pairs + 1)
    (members : ∀ item ∈ front, among item) :
    ∃ sorted counted, passes order pairs inside limit items tally = .done sorted counted () := by
  induction limit generalizing items tally front with
  | zero => exact ⟨items, tally, rfl⟩
  | succ limit inductionHypothesis =>
    obtain ⟨swept, list, passed⟩ := passes_pass tells inside items tally shape length members
    have perm := pass_perm order front
    rw [passed]
    split
    · exact inductionHypothesis swept _ list (perm.length_eq.trans length)
        fun item member => members item (perm.mem_iff.mp member)
    · exact ⟨swept, _, rfl⟩

/-- The first pass of the bubble sort, if there are two items or more. -/
def firstPass (order : Comparison α ε) (size : Nat) (inside : size ≤ n) (items : Vector α n)
    (tally : Tally) : Outcome α ε Unit n :=
  if several : 2 ≤ size then
    (sweep order (size - 1) 0 (by omega) items tally false).andThen
      fun items tally _ => .done items tally ()
  else .done items tally ()

/-- A first pass that fails is a pass over two items or more that fails. With fewer there is no
pass. -/
theorem sweep_of_firstPass_failed {size : Nat} {inside : size ≤ n} {items after : Vector α n}
    {tally counted : Tally} {error : ε}
    (failed : firstPass order size inside items tally = .failed after counted error) :
    ∃ several : 2 ≤ size, sweep order (size - 1) 0 (by omega) items tally false =
      .failed after counted error := by
  unfold firstPass at failed
  split at failed
  case isTrue several =>
    exact ⟨several, Outcome.failed_of_andThen (fun _ _ _ => ⟨_, rfl⟩) failed⟩
  case isFalse => cases failed

theorem sweep_of_firstPass_ok {size : Nat} {inside : size ≤ n} {items : Vector α n} {tally : Tally}
    (well : (firstPass order size inside items tally).result = .ok ()) (several : 2 ≤ size) :
    ∃ swept counted flag, sweep order (size - 1) 0 (by omega) items tally false =
      .done swept counted flag := by
  rw [firstPass, dif_pos several] at well
  obtain ⟨swept, counted, flag, ended, _⟩ := Outcome.andThen_result_ok well
  exact ⟨swept, counted, flag, ended⟩

/-- The bubble sort is decided by its first pass, which refuses two items or more that are not of
one kind.

Proof: the first pass compares every item with one of its neighbours, so it comes upon two kinds if
there are two. If all are of one kind, no pass is refused. -/
theorem sort_decidedBy (kinds : order.Kinds kind) (size : Nat) (inside : size ≤ n)
    (items : Vector α n) (tally : Tally) :
    (sort order size inside items tally).DecidedBy (firstPass order size inside items tally)
      (2 ≤ size ∧ ¬ ∃ k, ∀ item ∈ items.toList.take size, kind item = some k) := by
  have length (several : 2 ≤ size) : (items.toList.take size).length = size - 1 + 1 := by
    rw [List.length_take, Vector.length_toList]
    omega
  have shape := (List.take_append_drop size items.toList).symm
  have unfolded (several : 2 ≤ size) : sort order size inside items tally =
      passes order (size - 1) (by omega) (size - 1 + 1) items tally := by
    rw [sort, dif_pos several, Nat.sub_add_cancel (by omega)]
  apply Outcome.decidedBy
  case fails =>
    intro after counted error failed
    obtain ⟨several, sweep⟩ := sweep_of_firstPass_failed failed
    rw [unfolded several, passes_succ, sweep, Outcome.andThen_failed]
  case admits =>
    rintro well ⟨several, mixed⟩
    obtain ⟨swept, counted, flag, sweep⟩ := sweep_of_firstPass_ok well several
    exact mixed
      (exists_kind_of_sweep kinds (by omega) (by omega) items tally shape (length several) sweep)
  case completes =>
    intro admitted
    by_cases several : 2 ≤ size
    · obtain ⟨k, members⟩ := Classical.byContradiction fun mixed => admitted ⟨several, mixed⟩
      obtain ⟨sorted, counted, completed⟩ :=
        passes_completes (kinds.tells k) (by omega) _ items tally shape (length several) members
      rw [unfolded several, completed]
      rfl
    · rw [sort, dif_neg several]
      rfl

end Bubble

namespace Partition

variable {order : Comparison α ε} {kind : α → Option κ}

/-- A scan that fails does so for a comparison that was refused. It has counted no pass and no
partition by then. -/
theorem scan_failed {span : Span n} {pivot : α} {remaining store j : Nat}
    {lower : span.start ≤ store} {behind : store ≤ j} {upper : j + remaining < span.stop}
    {items after : Vector α n} {tally counted : Tally} {error : ε}
    (ended : scan order span pivot remaining store j lower behind upper items tally =
      .failed after counted error) :
    (∃ a b, order.le a b = .error error) ∧ counted.passes = tally.passes ∧
      counted.partitions = tally.partitions := by
  induction remaining generalizing store j items tally with
  | zero => cases ended
  | succ remaining inductionHypothesis =>
    have inside : j < n := Nat.lt_of_lt_of_le (Nat.lt_of_le_of_lt (Nat.le_add_right ..) upper)
      span.inside
    cases answer : order.le items[j] pivot with
    | error refusal =>
      rw [scan_refused order span pivot lower behind upper inside items tally answer] at ended
      cases ended
      exact ⟨⟨_, _, answer⟩, rfl, rfl⟩
    | ok notGreater =>
      cases notGreater with
      | false =>
        rw [scan_greater order span pivot lower behind upper inside items tally answer] at ended
        exact (inductionHypothesis ended :)
      | true =>
        rw [scan_notGreater order span pivot lower behind upper inside items tally answer] at ended
        exact (inductionHypothesis ended :)

/-- A partition that fails does so for a comparison that was refused, and is not counted. -/
theorem run_failed {span : Span n} {some : span.start < span.stop} {items after : Vector α n}
    {tally counted : Tally} {error : ε}
    (ended : run order span some items tally = .failed after counted error) :
    (∃ a b, order.le a b = .error error) ∧ counted.passes = tally.passes ∧
      counted.partitions = tally.partitions := by
  unfold run at ended
  exact scan_failed (Outcome.failed_of_andThen (fun _ _ _ => ⟨_, rfl⟩) ended)

/-- A partition of two items or more that ends well has found all of them of one kind, the kind of
the pivot, with which each was compared. -/
theorem exists_kind_of_run (kinds : order.Kinds kind) {span : Span n} (several : 2 ≤ span.size)
    {items after : Vector α n} {tally counted : Tally} {position : span.Position}
    (ended : run order span (span.start_lt_stop several) items tally =
      .done after counted position) :
    ∃ k, Holds (fun item => kind item = some k) span.start span.stop items := by
  have last := span.last_lt several
  have compared := (run_done_iff order span (span.start_lt_stop several) last items tally).mp
    ⟨after, counted, position, ended⟩
  have common (j : Nat) (inside : j < n) (lower : span.start ≤ j) (upper : j < span.stop - 1) :
      ∃ k, kind items[j] = some k ∧ kind items[span.stop - 1] = some k :=
    (kinds.le_iff _ _).mp (compared j inside lower upper)
  unfold Span.size at several
  obtain ⟨k, _, lastKind⟩ := common span.start (by omega) (Nat.le_refl _) (by omega)
  refine ⟨k, ?_⟩
  intro j inside lower upper
  by_cases final : j = span.stop - 1
  · subst final
    exact lastKind
  · obtain ⟨other, itsKind, lastOther⟩ := common j inside lower (by omega)
    exact itsKind.trans (lastOther.symm.trans lastKind)

end Partition

namespace Pending

variable {order : Comparison α ε} {kind : α → Option κ} {among : α → Prop}

theorem sort_trivial (order : Comparison α ε) (span : Span n) (few : ¬ 2 ≤ span.size)
    (items : Vector α n) (tally : Tally) : sort order span items tally = .done items tally () := by
  rw [sort, drain_trivial order ⟨span, 1⟩ [] items tally few, drain_nil]

/-- The sort of a span whose items can be compared ends well. It has no room that could be
exhausted. -/
theorem sort_completes (answers : order.Answers among) (span : Span n) (items : Vector α n)
    (tally : Tally) (held : Holds among span.start span.stop items) :
    ∃ after counted, sort order span items tally = .done after counted () := by
  obtain ⟨after, counted, _, ended⟩ | ⟨after, counted, error, failed⟩ :=
    (sort order span items tally).done_or_failed
  · exact ⟨after, counted, ended⟩
  · -- The recursive sort with as many levels as items does the same, and does not fail.
    rw [sort_eq_quick order error span.size span (Nat.le_refl _)] at failed
    obtain ⟨sorted, work, ended⟩ :=
      Quick.sort_completes answers span.size 1 span (Nat.le_refl _) items tally held
    rw [ended] at failed
    cases failed

/-- The first partition of a quicksort, if its span has two items or more. -/
def firstPartition (order : Comparison α ε) (span : Span n) (items : Vector α n) (tally : Tally) :
    Outcome α ε Unit n :=
  if several : 2 ≤ span.size then
    (Partition.run order span (span.start_lt_stop several) items (tally.reached 1)).andThen
      fun items tally _ => .done items tally ()
  else .done items tally ()

/-- A first partition that fails is a partition of two items or more that fails. It takes place on
the first level, which is counted as reached. -/
theorem run_of_firstPartition_failed {span : Span n} {items after : Vector α n}
    {tally counted : Tally} {error : ε}
    (failed : firstPartition order span items tally = .failed after counted error) :
    ∃ several : 2 ≤ span.size,
      Partition.run order span (span.start_lt_stop several) items (tally.reached 1) =
        .failed after counted error := by
  unfold firstPartition at failed
  split at failed
  case isTrue several =>
    exact ⟨several, Outcome.failed_of_andThen (fun _ _ _ => ⟨_, rfl⟩) failed⟩
  case isFalse => cases failed

theorem run_of_firstPartition_ok {span : Span n} {items : Vector α n} {tally : Tally}
    (well : (firstPartition order span items tally).result = .ok ()) (several : 2 ≤ span.size) :
    ∃ after counted position,
      Partition.run order span (span.start_lt_stop several) items (tally.reached 1) =
        .done after counted position := by
  rw [firstPartition, dif_pos several] at well
  obtain ⟨after, counted, position, ended, _⟩ := Outcome.andThen_result_ok well
  exact ⟨after, counted, position, ended⟩

/-- A quicksort is decided by its first partition, which refuses two items or more that are not of
one kind. The later partitions compare items that the first one found to be of the kind of its
pivot. -/
theorem sort_decidedBy (kinds : order.Kinds kind) (span : Span n) (items : Vector α n)
    (tally : Tally) :
    (sort order span items tally).DecidedBy (firstPartition order span items tally)
      (2 ≤ span.size ∧
        ¬ ∃ k, Holds (fun item => kind item = some k) span.start span.stop items) := by
  apply Outcome.decidedBy
  case fails =>
    intro after counted error failed
    obtain ⟨several, run⟩ := run_of_firstPartition_failed failed
    rw [sort, drain_several order ⟨span, 1⟩ [] items tally several, run, Outcome.andThen_failed]
  case admits =>
    rintro well ⟨several, mixed⟩
    obtain ⟨after, counted, position, run⟩ := run_of_firstPartition_ok well several
    exact mixed (Partition.exists_kind_of_run kinds several run)
  case completes =>
    intro admitted
    by_cases several : 2 ≤ span.size
    · obtain ⟨k, held⟩ := Classical.byContradiction fun mixed => admitted ⟨several, mixed⟩
      obtain ⟨sorted, counted, completed⟩ :=
        sort_completes (kinds.answers k) span items tally held
      rw [completed]
      rfl
    · rw [sort_trivial order span several]
      rfl

end Pending

end SortBench.Sorting
