import SortBench.Proofs.Sorting.Steps

/-!
# Counting from a tally

A sort only adds to the tally that it is given and never looks at it: what it does with the
items, and how it ends, is the same from every tally, and the tally that it leaves is the
given one merged with the one that it leaves from nothing. Hence the deepest level, which is
read off a run that starts from nothing, says what happens in a run that starts from any
tally.

The laws have the first tally of a merge as a parameter, since the loops hand on a tally that
has grown.
-/

namespace SortBench.Sorting

variable {α ε β γ : Type} {n : Nat}

namespace Tally

/-- Nothing counted afterwards changes nothing. With `empty_merge` and `merge_assoc` tallies form a
monoid, which is what lets the parts of a run be counted one by one. -/
theorem merge_empty (tally : Tally) : tally.merge {} = tally := by
  simp [merge]

theorem empty_merge (tally : Tally) : merge {} tally = tally := by
  simp [merge]

/-- A comparison counted later is counted on top of whatever came before. The same is true of
exchanges and of levels that are reached. -/
theorem merge_compared (first second : Tally) :
    first.merge second.compared = (first.merge second).compared :=
  rfl

theorem merge_swapped (first second : Tally) :
    first.merge second.swapped = (first.merge second).swapped :=
  rfl

theorem merge_reached (first second : Tally) (depth : Nat) :
    first.merge (second.reached depth) = (first.merge second).reached depth := by
  simp only [merge, reached, Nat.max_assoc]

/-- Work in three parts can be merged either way. Counters are added, and of the deepest levels the
deeper one is taken; both are associative. -/
theorem merge_assoc (first second third : Tally) :
    (first.merge second).merge third = first.merge (second.merge third) := by
  simp only [merge, Nat.add_assoc, Nat.max_assoc]

/-- A comparison counted before later work is counted in it as well. It may therefore be moved from
the front of a tally to its end. -/
theorem compared_merge (tally later : Tally) :
    tally.compared.merge later = tally.merge later.compared := by
  simp only [merge, compared, Nat.add_right_comm]
  rfl

theorem swapped_merge (tally later : Tally) :
    tally.swapped.merge later = tally.merge later.swapped := by
  simp only [merge, swapped, Nat.add_right_comm]
  rfl

end Tally

namespace Outcome

/-- The same outcome with the work counted on top of an earlier tally. Items, answer and error are
not touched. -/
def onTop (earlier : Tally) (outcome : Outcome α ε β n) : Outcome α ε β n :=
  { outcome with tally := earlier.merge outcome.tally }

/-- A sequence counts on top of a tally when its second step does. If the first step fails, there is
no second one, and the failure is counted on top all the same. -/
theorem andThen_onTop (earlier : Tally) (outcome : Outcome α ε β n)
    (next : Vector α n → Tally → β → Outcome α ε γ n)
    (later : ∀ items tally answer,
      next items (earlier.merge tally) answer = (next items tally answer).onTop earlier) :
    (outcome.onTop earlier).andThen next = (outcome.andThen next).onTop earlier := by
  obtain ⟨items, tally, answer, rfl⟩ | ⟨items, tally, error, rfl⟩ := outcome.done_or_failed
  · exact later items tally answer
  · rfl

/-- A second step that leaves the deepest level as it is does so in a sequence. Scans and passes are
such steps, since only the start of a sort reaches a level. -/
theorem maxDepth_andThen (outcome : Outcome α ε β n)
    (next : Vector α n → Tally → β → Outcome α ε γ n)
    (later : ∀ items tally answer, (next items tally answer).tally.maxDepth = tally.maxDepth) :
    (outcome.andThen next).tally.maxDepth = outcome.tally.maxDepth := by
  obtain ⟨items, tally, answer, rfl⟩ | ⟨items, tally, error, rfl⟩ := outcome.done_or_failed
  · exact later items tally answer
  · rfl

theorem le_maxDepth_andThen (outcome : Outcome α ε β n)
    (next : Vector α n → Tally → β → Outcome α ε γ n)
    (later : ∀ items tally answer,
      tally.maxDepth ≤ (next items tally answer).tally.maxDepth) :
    outcome.tally.maxDepth ≤ (outcome.andThen next).tally.maxDepth := by
  obtain ⟨items, tally, answer, rfl⟩ | ⟨items, tally, error, rfl⟩ := outcome.done_or_failed
  · exact later items tally answer
  · exact Nat.le_refl _

end Outcome

namespace Partition

/-- The scan counts on top of an earlier tally: what it compares, exchanges and answers does not
depend on the counters. The counters are written and never read. -/
theorem scan_onTop (order : Comparison α ε) (span : Span n) (pivot : α)
    (remaining store j : Nat) (lower : span.start ≤ store) (behind : store ≤ j)
    (upper : j + remaining < span.stop) (items : Vector α n) (earlier tally : Tally) :
    scan order span pivot remaining store j lower behind upper items (earlier.merge tally) =
      (scan order span pivot remaining store j lower behind upper items tally).onTop earlier := by
  induction remaining generalizing store j items tally with
  | zero => rfl
  | succ remaining inductionHypothesis =>
    have inside := span.inside
    simp only [scan, ← Tally.merge_compared, ← Tally.merge_swapped]
    cases order.le items[j] pivot with
    | error error => rfl
    | ok notGreater => cases notGreater <;> exact inductionHypothesis ..

theorem run_onTop (order : Comparison α ε) (span : Span n) (some : span.start < span.stop)
    (items : Vector α n) (earlier tally : Tally) :
    run order span some items (earlier.merge tally) =
      (run order span some items tally).onTop earlier := by
  simp only [run, scan_onTop]
  exact Outcome.andThen_onTop earlier _ _ fun _ _ _ => rfl

/-- The scan leaves the deepest level as it is, whether it is refused or not. Levels are reached
where a span is about to be partitioned, and nowhere else. -/
theorem scan_maxDepth (order : Comparison α ε) (span : Span n) (pivot : α)
    (remaining store j : Nat) (lower : span.start ≤ store) (behind : store ≤ j)
    (upper : j + remaining < span.stop) (items : Vector α n) (tally : Tally) :
    (scan order span pivot remaining store j lower behind upper items tally).tally.maxDepth =
      tally.maxDepth := by
  induction remaining generalizing store j items tally with
  | zero => rfl
  | succ remaining inductionHypothesis =>
    have inside := span.inside
    simp only [scan]
    cases order.le items[j] pivot with
    | error error => rfl
    | ok notGreater => cases notGreater <;> exact inductionHypothesis ..

theorem run_maxDepth (order : Comparison α ε) (span : Span n) (some : span.start < span.stop)
    (items : Vector α n) (tally : Tally) :
    (run order span some items tally).tally.maxDepth = tally.maxDepth := by
  simp only [run]
  rw [Outcome.maxDepth_andThen _ _ fun _ _ _ => rfl, scan_maxDepth]

end Partition

namespace Quick

/-- The recursive sort counts on top of an earlier tally, and so does not behave differently on a
bench that was worked on before.

Proof: by induction on the room; each part of a call counts on top, and so does their sequence. -/
theorem sort_onTop (order : Comparison α ε) (exhausted : ε) (room depth : Nat) (span : Span n)
    (items : Vector α n) (earlier tally : Tally) :
    sort order exhausted room depth span items (earlier.merge tally) =
      (sort order exhausted room depth span items tally).onTop earlier := by
  induction room generalizing depth span items tally with
  | zero =>
    unfold sort
    split <;> rfl
  | succ room inductionHypothesis =>
    by_cases several : 2 ≤ span.size
    · rw [sort_several _ _ _ _ _ _ _ several, sort_several _ _ _ _ _ _ _ several,
        ← Tally.merge_reached, Partition.run_onTop]
      apply Outcome.andThen_onTop
      intro items tally pivot
      rw [inductionHypothesis]
      apply Outcome.andThen_onTop
      intro items tally _
      exact inductionHypothesis ..
    · rw [sort_trivial _ _ _ _ _ _ _ several, sort_trivial _ _ _ _ _ _ _ several]
      rfl

/-- The recursive sort from any tally, read off the sort from nothing. All results about the work of
a sort need only be proved for a fresh tally. -/
theorem sort_eq_onTop (order : Comparison α ε) (exhausted : ε) (room depth : Nat)
    (span : Span n) (items : Vector α n) (tally : Tally) :
    sort order exhausted room depth span items tally =
      (sort order exhausted room depth span items {}).onTop tally := by
  rw [← sort_onTop, Tally.merge_empty]

/-- The deepest level never decreases, on whatever level a sort begins and however it ends. -/
theorem le_maxDepth_sort (order : Comparison α ε) (exhausted : ε) (room depth : Nat)
    (span : Span n) (items : Vector α n) (tally : Tally) :
    tally.maxDepth ≤ (sort order exhausted room depth span items tally).tally.maxDepth := by
  rw [sort_eq_onTop]
  exact Nat.le_max_left ..

/-- A span that is partitioned reaches the level at which it is sorted, even if its very first
comparison is refused. Spans of fewer than two positions reach none. -/
theorem depth_le_maxDepth_sort (order : Comparison α ε) (exhausted : ε) (room depth : Nat)
    (span : Span n) (several : 2 ≤ span.size) (items : Vector α n) (tally : Tally) :
    depth ≤ (sort order exhausted (room + 1) depth span items tally).tally.maxDepth := by
  have reached : depth ≤ (tally.reached depth).maxDepth := Nat.le_max_right ..
  rw [sort_several _ _ _ _ _ _ _ several]
  refine Nat.le_trans ?_ (Outcome.le_maxDepth_andThen _ _ ?_)
  · rw [Partition.run_maxDepth]
    exact reached
  · intro items tally pivot
    refine Nat.le_trans ?_ (Outcome.le_maxDepth_andThen _ _ ?_)
    · exact le_maxDepth_sort ..
    · intro items tally _
      exact le_maxDepth_sort ..

end Quick

end SortBench.Sorting
