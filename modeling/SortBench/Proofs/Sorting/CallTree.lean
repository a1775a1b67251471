import SortBench.Proofs.Sorting.Counting
import SortBench.Proofs.Sorting.Exchanges

/-!
# The stack and the call tree

The loop over a stack of pending spans does what the recursive sort does. The simulation is
stated for a whole stack: working off a stack means sorting its top span by recursion, with
room to spare, and then working off the rest. Both parts of a partitioned span are pushed
before either is looked at; that the first part is popped first, and the second one only when
everything below the first has been worked off, is what the two steps of the statement say.

A span of `m` items never nests deeper than `m` levels, so room for its size is room to spare.
With less room the recursion either takes the same course, or it ends for want of room; which
of the two it is can be read off the deepest level that the unhindered run reaches. Nothing
is assumed of the comparisons, and a refused one ends both sorts in the same state.
-/

namespace SortBench.Sorting

variable {α ε : Type} {n : Nat}

/-- The part of a span before one of its positions is smaller than the span, as it lacks at least
this position. The recursion ends for this reason. -/
theorem Span.size_before_lt (span : Span n) (pivot : span.Position) :
    (span.before pivot).size < span.size := by
  have lower := pivot.lower
  have upper := pivot.upper
  simp only [size, before]
  omega

theorem Span.size_after_lt (span : Span n) (pivot : span.Position) :
    (span.after pivot).size < span.size := by
  have lower := pivot.lower
  have upper := pivot.upper
  simp only [size, after]
  omega

namespace Pending

/-- Working off a stack sorts its top span by recursion and then works off the rest. The error for
exhausted room is never met, so it can be any.

Proof: by induction on the room, after the calls of the recursion. The loop pushes both sides of the
pivot at once and works them off in the order of the calls. -/
theorem drain_cons (order : Comparison α ε) (exhausted : ε) (room : Nat) (top : Pending n)
    (enough : top.span.size ≤ room) (rest : List (Pending n)) (items : Vector α n)
    (tally : Tally) :
    drain order (top :: rest) items tally =
      (Quick.sort order exhausted room top.depth top.span items tally).andThen
        fun items tally _ => drain order rest items tally := by
  induction room generalizing top rest items tally with
  | zero =>
    have few : ¬ 2 ≤ top.span.size := by omega
    rw [drain_trivial _ _ _ _ _ few, Quick.sort_trivial _ _ _ _ _ _ _ few, Outcome.andThen_done]
  | succ room inductionHypothesis =>
    by_cases several : 2 ≤ top.span.size
    · rw [drain_several _ _ _ _ _ several, Quick.sort_several _ _ _ _ _ _ _ several,
        Outcome.andThen_andThen]
      congr 1
      funext items tally pivot
      have first := top.span.size_before_lt pivot
      have second := top.span.size_after_lt pivot
      -- The part before the pivot is the top of the new stack, the part after it the next one.
      rw [split, inductionHypothesis _ (by simp only; omega), Outcome.andThen_andThen]
      congr 1
      funext items tally _
      exact inductionHypothesis _ (by simp only; omega) rest items tally
    · rw [drain_trivial _ _ _ _ _ several, Quick.sort_trivial _ _ _ _ _ _ _ several,
        Outcome.andThen_done]

/-- The sort over a stack is the recursive sort with room to spare: the same items, the same work,
and the same refusal if there is one. What is proved of either holds of both. -/
theorem sort_eq_quick (order : Comparison α ε) (exhausted : ε) (room : Nat) (span : Span n)
    (enough : span.size ≤ room) (items : Vector α n) (tally : Tally) :
    sort order span items tally = Quick.sort order exhausted room 1 span items tally := by
  rw [sort, drain_cons order exhausted room _ enough]
  simp only [drain_nil]
  exact Outcome.andThen_finish _

/-- The sort over a stack exchanges positions of its span and touches no other. -/
theorem sort_exchanged (order : Comparison α ε) (exhausted : ε) (span : Span n)
    (items : Vector α n) (tally : Tally) :
    Exchanged span.start span.stop items (sort order span items tally).items := by
  rw [sort_eq_quick order exhausted span.size span (Nat.le_refl _)]
  exact Quick.sort_exchanged ..

/-- The sort over a stack from any tally, read off the sort from nothing. So what it does does not
depend on what was counted before. -/
theorem sort_eq_onTop (order : Comparison α ε) (exhausted : ε) (span : Span n)
    (items : Vector α n) (tally : Tally) :
    sort order span items tally = (sort order span items {}).onTop tally := by
  rw [sort_eq_quick order exhausted span.size span (Nat.le_refl _),
    sort_eq_quick order exhausted span.size span (Nat.le_refl _), ← Quick.sort_eq_onTop]

end Pending

namespace Quick

/-- How a step with less room ends, compared with one that has more: in the same way, if no level
beyond its room is reached, and otherwise for want of room. There is nothing in between, such as a
refusal that only one of the two meets. -/
def Restricts {β : Type} (exhausted : ε) (limit : Nat) (narrow wide : Outcome α ε β n) : Prop :=
  (narrow = wide ∧ wide.tally.maxDepth < limit) ∨
    (narrow.result = .error exhausted ∧ limit ≤ wide.tally.maxDepth)

/-- Sequences of restricted steps are restricted, if the second step does not lower the deepest
level. It counts only where the first step ended well within the room; a first step that ran out of
room ends the sequence in the same way. -/
theorem Restricts.andThen {β γ : Type} {exhausted : ε} {limit : Nat}
    {narrow wide : Outcome α ε β n} (restricts : Restricts exhausted limit narrow wide)
    (narrowNext wideNext : Vector α n → Tally → β → Outcome α ε γ n)
    (later : ∀ items tally answer, tally.maxDepth < limit →
      Restricts exhausted limit (narrowNext items tally answer) (wideNext items tally answer))
    (rises : ∀ items tally answer,
      tally.maxDepth ≤ (wideNext items tally answer).tally.maxDepth) :
    Restricts exhausted limit (narrow.andThen narrowNext) (wide.andThen wideNext) := by
  obtain ⟨rfl, shallow⟩ | ⟨ended, deep⟩ := restricts
  · obtain ⟨items, tally, answer, rfl⟩ | ⟨items, tally, error, rfl⟩ := narrow.done_or_failed
    · exact later items tally answer shallow
    · exact Or.inl ⟨rfl, shallow⟩
  · refine Or.inr ⟨?_, Nat.le_trans deep (Outcome.le_maxDepth_andThen _ _ rises)⟩
    obtain ⟨items, tally, answer, rfl⟩ | ⟨items, tally, error, rfl⟩ := narrow.done_or_failed
    · contradiction
    · obtain rfl : error = exhausted := Except.error.inj ended
      rfl

/-- The room decides by the deepest level alone. With room for `room` levels from `depth` on, the
levels from `depth + room` on are out of reach.

Proof: by induction on the room, along the calls. A partition does not reach a level of its own
accord, and the calls for the two sides are restricted at the next level by the induction. -/
theorem sort_restricts (order : Comparison α ε) (exhausted : ε) (room extra depth : Nat)
    (span : Span n) (items : Vector α n) (tally : Tally)
    (shallow : tally.maxDepth < depth + room) :
    Restricts exhausted (depth + room)
      (sort order exhausted room depth span items tally)
      (sort order exhausted (room + extra) depth span items tally) := by
  induction room generalizing depth span items tally with
  | zero =>
    by_cases several : 2 ≤ span.size
    · rw [sort_without_room _ _ _ _ _ _ several]
      cases extra with
      | zero =>
        rw [sort_without_room _ _ _ _ _ _ several]
        exact Or.inl ⟨rfl, shallow⟩
      | succ extra =>
        rw [Nat.zero_add]
        exact Or.inr ⟨rfl, depth_le_maxDepth_sort order exhausted extra depth span several ..⟩
    · rw [sort_trivial _ _ _ _ _ _ _ several, sort_trivial _ _ _ _ _ _ _ several]
      exact Or.inl ⟨rfl, shallow⟩
  | succ room inductionHypothesis =>
    have nested : depth + (room + 1) = depth + 1 + room := by omega
    rw [nested] at shallow ⊢
    by_cases several : 2 ≤ span.size
    · rw [Nat.add_right_comm room 1 extra, sort_several _ _ _ _ _ _ _ several,
        sort_several _ _ _ _ _ _ _ several]
      have same : Restricts exhausted (depth + 1 + room)
          (Partition.run order span (span.start_lt_stop several) items (tally.reached depth))
          (Partition.run order span (span.start_lt_stop several) items (tally.reached depth)) := by
        refine Or.inl ⟨rfl, ?_⟩
        rw [Partition.run_maxDepth]
        exact Nat.max_lt.mpr ⟨shallow, by omega⟩
      refine same.andThen _ _ ?_ ?_
      · intro items tally pivot shallow
        refine (inductionHypothesis (depth + 1) (span.before pivot) items tally shallow).andThen
          _ _ ?_ fun _ _ _ => le_maxDepth_sort ..
        intro items tally _ shallow
        exact inductionHypothesis (depth + 1) (span.after pivot) items tally shallow
      · intro items tally pivot
        exact Nat.le_trans (le_maxDepth_sort ..)
          (Outcome.le_maxDepth_andThen _ _ fun _ _ _ => le_maxDepth_sort ..)
    · rw [sort_trivial _ _ _ _ _ _ _ several, sort_trivial _ _ _ _ _ _ _ several]
      exact Or.inl ⟨rfl, shallow⟩

/-- From any tally, the recursive sort of a whole range with room for `limit` levels is the sort
over a stack if that sort, from nothing, reaches no level beyond the limit; and otherwise it ends
for want of room. The right way to ask in advance is therefore to run the other sort and look at its
deepest level. -/
theorem sort_eq_pending_or_exhausted (order : Comparison α ε) (exhausted : ε) (limit : Nat)
    (span : Span n) (items : Vector α n) (tally : Tally) :
    ((Pending.sort order span items {}).tally.maxDepth ≤ limit ∧
        sort order exhausted limit 1 span items tally = Pending.sort order span items tally) ∨
      (limit < (Pending.sort order span items {}).tally.maxDepth ∧
        (sort order exhausted limit 1 span items tally).result = .error exhausted) := by
  have enough : span.size ≤ limit + span.size := Nat.le_add_left ..
  have restricts := sort_restricts order exhausted limit span.size 1 span items {}
    (Nat.lt_of_lt_of_le Nat.one_pos (Nat.le_add_right ..))
  rw [← Pending.sort_eq_quick order exhausted _ span enough] at restricts
  rw [sort_eq_onTop, Pending.sort_eq_onTop order exhausted span items tally]
  obtain ⟨same, shallow⟩ | ⟨ended, deep⟩ := restricts
  · exact Or.inl ⟨by omega, by rw [same]⟩
  · exact Or.inr ⟨by omega, ended⟩

end Quick

end SortBench.Sorting
