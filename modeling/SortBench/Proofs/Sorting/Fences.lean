import Mathlib.Data.List.Forall2
import SortBench.Proofs.Sorting.Passes

/-!
# The bubble sort between fences

An item that is never found greater than another one, and than which none is found greater, is a
*fence*: a pass leaves it where it is and carries no item past it. So a pass over a list is one over
each of its parts between fences, all in the same passage. The parts are sorted side by side, and
the last one to be done says how many passes there are.

Between fences the comparisons are those of a total preorder; on the whole list they are not, since
a fence is neither greater than its neighbours nor ordered with them.
-/

namespace SortBench.Sorting

variable {α ε : Type} {order : Comparison α ε} {among : α → Prop} {fence : α → Bool}

/-- Of two items of the class one of which is a fence, the first is never found greater. So no
exchange moves an item past a fence; a value that is not a number is one. -/
def Comparison.Fenced (order : Comparison α ε) (among : α → Prop) (fence : α → Bool) : Prop :=
  ∀ {a b}, among a → among b → fence a = true ∨ fence b = true → order.exceeds a b = false

/-- A property of lists holds of all if it holds of those without a fence, and if a part without a
fence and a fence can be put in front of a list that has it. All results on fenced lists are proved
along this induction. -/
@[elab_as_elim]
theorem fence_induction (fence : α → Bool) {motive : List α → Prop}
    (free : ∀ items, (∀ item ∈ items, fence item = false) → motive items)
    (fenced : ∀ front post rest, (∀ item ∈ front, fence item = false) → fence post = true →
      motive rest → motive (front ++ post :: rest)) (items : List α) : motive items := by
  cases found : items.find? fence with
  | none => exact free items (by simpa using List.find?_eq_none.mp found)
  | some post =>
    obtain ⟨isFence, front, rest, whole, before⟩ := List.find?_eq_some_iff_append.mp found
    rw [whole]
    refine fenced front post rest ?_ isFence (fence_induction fence free fenced rest)
    simpa using before
termination_by items.length
decreasing_by
  rw [whole, List.length_append, List.length_cons]
  omega

/-- A part without a fence and a fence are cut off in front of the parts of the rest. The parts of a
list are in this way given by the same induction as its fences. -/
theorem splitOnP_fenced {front rest : List α} {post : α}
    (free : ∀ item ∈ front, fence item = false) (isFence : fence post = true) :
    (front ++ post :: rest).splitOnP fence = front :: rest.splitOnP fence := by
  rw [List.splitOnP_append_cons front rest isFence, List.splitOnP_eq_singleton free,
    List.singleton_append]

/-- A list has the fences of another at the same positions, and between them stable ascending
arrangements of the other one's parts. Nothing is said of two items of different parts. -/
structure ArrangesBetween (order : Comparison α ε) (fence : α → Bool) (given result : List α) :
    Prop where
  /-- A fence stands at a position of the one exactly if it stands there in the other. -/
  fences : ∀ (k : Nat) (item : α), fence item = true →
    (result[k]? = some item ↔ given[k]? = some item)
  /-- The parts between fences correspond one by one. -/
  parts : List.Forall₂ (StablyArranges order) (given.splitOnP fence) (result.splitOnP fence)

namespace ArrangesBetween

variable {given result front arranged rest others : List α} {post : α}

theorem getElem?_ne_of_free (free : ∀ item ∈ given, fence item = false) {item : α}
    (isFence : fence item = true) (k : Nat) : ¬ given[k]? = some item := by
  intro found
  simpa [isFence] using free item (List.mem_of_getElem? found)

/-- Without fences the whole list is one part, and to be arranged between the fences is to be
sorted. -/
theorem of_free (free : ∀ item ∈ given, fence item = false)
    (arranges : StablyArranges order given result) : ArrangesBetween order fence given result := by
  have freeResult : ∀ item ∈ result, fence item = false :=
    fun item member => free item (arranges.perm.mem_iff.mp member)
  constructor
  · intro k item isFence
    exact iff_of_false (getElem?_ne_of_free freeResult isFence k)
      (getElem?_ne_of_free free isFence k)
  · rw [List.splitOnP_eq_singleton free, List.splitOnP_eq_singleton freeResult]
    exact .cons arranges .nil

/-- A part that is arranged and a fence can be put in front. The positions of the later fences are
moved by the length of the part, which sorting does not change. -/
theorem append_fence (free : ∀ item ∈ front, fence item = false) (isFence : fence post = true)
    (arranges : StablyArranges order front arranged)
    (between : ArrangesBetween order fence rest others) :
    ArrangesBetween order fence (front ++ post :: rest) (arranged ++ post :: others) := by
  have freeArranged : ∀ item ∈ arranged, fence item = false :=
    fun item member => free item (arranges.perm.mem_iff.mp member)
  constructor
  · intro k item itemFence
    rw [List.getElem?_append, List.getElem?_append, arranges.perm.length_eq]
    split
    · exact iff_of_false (getElem?_ne_of_free freeArranged itemFence k)
        (getElem?_ne_of_free free itemFence k)
    · cases k - front.length with
      | zero => exact Iff.rfl
      | succ later => exact between.fences later item itemFence
  · rw [splitOnP_fenced free isFence, splitOnP_fenced freeArranged isFence]
    exact .cons arranges between.parts

end ArrangesBetween

namespace Bubble

/-- The level of a list with fences: the highest entry of the inversion tables of its parts. -/
def levelBetween (order : Comparison α ε) (fence : α → Bool) (items : List α) : Nat :=
  highest ((items.splitOnP fence).map fun part => highest (inversionTable order part))

/-- The inversions of a list with fences: those of its parts. -/
def inversionsBetween (order : Comparison α ε) (fence : α → Bool) (items : List α) : Nat :=
  ((items.splitOnP fence).map fun part => (inversionTable order part).sum).sum

/-- The work that the bubble sort takes on two items or more with fences among them. Passes go over
all parts at once, so their number is that of the part that needs most; exchanges are added up. -/
def workBetween (order : Comparison α ε) (fence : α → Bool) (items : List α) : Tally :=
  { comparisons := (levelBetween order fence items + 1) * (items.length - 1)
    swaps := inversionsBetween order fence items
    passes := levelBetween order fence items + 1 }

section

variable {front rest items : List α} {post : α}

theorem levelBetween_free (free : ∀ item ∈ items, fence item = false) :
    levelBetween order fence items = highest (inversionTable order items) := by
  simp [levelBetween, List.splitOnP_eq_singleton free, highest]

/-- A part in front of a fence counts beside the rest: the level is the higher of the two, as one
pass serves them both. -/
theorem levelBetween_fenced (free : ∀ item ∈ front, fence item = false)
    (isFence : fence post = true) :
    levelBetween order fence (front ++ post :: rest) =
      max (highest (inversionTable order front)) (levelBetween order fence rest) := by
  rw [levelBetween, splitOnP_fenced free isFence]
  rfl

theorem inversionsBetween_free (free : ∀ item ∈ items, fence item = false) :
    inversionsBetween order fence items = (inversionTable order items).sum := by
  simp [inversionsBetween, List.splitOnP_eq_singleton free]

/-- The inversions of a part in front of a fence are counted with those of the rest. Pairs of items
on different sides of a fence are not counted, since they are never exchanged. -/
theorem inversionsBetween_fenced (free : ∀ item ∈ front, fence item = false)
    (isFence : fence post = true) :
    inversionsBetween order fence (front ++ post :: rest) =
      (inversionTable order front).sum + inversionsBetween order fence rest := by
  rw [inversionsBetween, splitOnP_fenced free isFence]
  rfl

/-- The level is below the number of items, if there are any. So as many passes as there are items
are always enough. -/
theorem levelBetween_le (items : List α) :
    levelBetween order fence items ≤ items.length - 1 := by
  have bound (part : List α) : highest (inversionTable order part) ≤ part.length - 1 := by
    simpa [inversionTable_eq] using highest_overtaken_le order [] part
  induction items using fence_induction fence with
  | free items free =>
    rw [levelBetween_free free]
    exact bound items
  | fenced front post rest free isFence inductionHypothesis =>
    have first := bound front
    rw [levelBetween_fenced free isFence, List.length_append, List.length_cons]
    omega

end

section

variable (fenced : order.Fenced among fence)

include fenced

/-- A pass that comes to a fence puts down what it carries and takes up the item behind. The fence
stays where it is, and no exchange is made with it on either side. -/
theorem carried_fenced {held post : α} {front rest : List α} (isFence : fence post = true)
    (members : ∀ item ∈ held :: (front ++ post :: rest), among item) :
    carried order held (front ++ post :: rest) =
        carried order held front ++ post :: pass order rest ∧
      exchanges order held (front ++ post :: rest) =
        exchanges order held front + passExchanges order rest := by
  induction front generalizing held with
  | nil =>
    simp only [List.nil_append, List.forall_mem_cons] at members ⊢
    obtain ⟨heldMember, postMember, restMembers⟩ := members
    have before := fenced heldMember postMember (Or.inr isFence)
    cases rest with
    | nil => simp [carried, exchanges, pass, passExchanges, before]
    | cons next rest =>
      have behind :=
        fenced postMember (restMembers next (List.mem_cons_self ..)) (Or.inl isFence)
      simp [carried, exchanges, pass, passExchanges, before, behind]
  | cons next front inductionHypothesis =>
    simp only [List.cons_append, List.forall_mem_cons] at members inductionHypothesis ⊢
    obtain ⟨heldMember, nextMember, restMembers⟩ := members
    rw [carried, carried, exchanges, exchanges]
    split
    · obtain ⟨list, counted⟩ := inductionHypothesis ⟨heldMember, restMembers⟩
      refine ⟨by rw [list, List.cons_append], by omega⟩
    · obtain ⟨list, counted⟩ := inductionHypothesis ⟨nextMember, restMembers⟩
      exact ⟨by rw [list, List.cons_append], counted⟩

/-- A pass over a list with a fence is one over each side of it, also in the exchanges that it
makes. This is the step from lists without fences, where the passes are known, to all lists. -/
theorem pass_fenced {post : α} {front rest : List α} (isFence : fence post = true)
    (members : ∀ item ∈ front ++ post :: rest, among item) :
    pass order (front ++ post :: rest) = pass order front ++ post :: pass order rest ∧
      passExchanges order (front ++ post :: rest) =
        passExchanges order front + passExchanges order rest := by
  cases front with
  | cons held front => exact carried_fenced fenced isFence members
  | nil =>
    cases rest with
    | nil => simp [pass, passExchanges, carried, exchanges]
    | cons next rest =>
      obtain ⟨postMember, nextMember, _⟩ :
          among post ∧ among next ∧ ∀ item ∈ rest, among item := by simpa using members
      simp [pass, passExchanges, carried, exchanges,
        fenced postMember nextMember (Or.inl isFence)]

end

theorem iterate_perm (order : Comparison α ε) (count : Nat) (items : List α) :
    ((pass order)^[count] items).Perm items := by
  induction count generalizing items with
  | zero => exact .refl items
  | succ count inductionHypothesis => exact (inductionHypothesis _).trans (pass_perm order items)

/-- Passes over a list with a fence are passes over each side of it, as many on one side as on the
other. -/
theorem iterate_fenced (fenced : order.Fenced among fence) (count : Nat) {post : α}
    {front rest : List α} (isFence : fence post = true)
    (members : ∀ item ∈ front ++ post :: rest, among item) :
    (pass order)^[count] (front ++ post :: rest) =
      (pass order)^[count] front ++ post :: (pass order)^[count] rest := by
  induction count generalizing front rest with
  | zero => rfl
  | succ count inductionHypothesis =>
    have list := (pass_fenced fenced isFence members).1
    simp only [Function.iterate_succ_apply]
    rw [list]
    apply inductionHypothesis
    intro item member
    rw [← list] at member
    exact members item ((pass_perm order _).mem_iff.mp member)

theorem free_pass {items : List α} (free : ∀ item ∈ items, fence item = false) :
    ∀ item ∈ pass order items, fence item = false :=
  fun item member => free item ((pass_perm order items).mem_iff.mp member)

/-- Without a level between fences there are no inversions between them, so that the gauges come to
zero together. -/
theorem inversionsBetween_eq_zero {items : List α} (none : levelBetween order fence items = 0) :
    inversionsBetween order fence items = 0 := by
  induction items using fence_induction fence with
  | free items free =>
    rw [levelBetween_free free] at none
    rw [inversionsBetween_free free]
    exact sum_eq_zero_of_highest none
  | fenced front post rest free isFence inductionHypothesis =>
    rw [levelBetween_fenced free isFence, Nat.max_eq_zero_iff] at none
    have first := sum_eq_zero_of_highest none.1
    rw [inversionsBetween_fenced free isFence, inductionHypothesis none.2, first]

section

variable (ranks : order.Ranks fun item => among item ∧ fence item = false)
  (fenced : order.Fenced among fence)

include ranks fenced

/-- A pass lowers the level of every part by one and takes its exchanges out of the inversions of
the parts; so it makes exchanges as long as a part has a level.

Proof: by induction on the fences. Without one it is what is known of a pass, and with one the
figures of both sides are put together. -/
theorem pass_between {items : List α} (members : ∀ item ∈ items, among item) :
    (0 < passExchanges order items ↔ 0 < levelBetween order fence items) ∧
      levelBetween order fence (pass order items) = levelBetween order fence items - 1 ∧
      inversionsBetween order fence items =
        passExchanges order items + inversionsBetween order fence (pass order items) := by
  have gauge := inversions_gauge ranks
  induction items using fence_induction fence with
  | free items free =>
    have ordered : ∀ item ∈ items, among item ∧ fence item = false :=
      fun item member => ⟨members item member, free item member⟩
    rw [levelBetween_free free, levelBetween_free (free_pass free), inversionsBetween_free free,
      inversionsBetween_free (free_pass free)]
    exact ⟨gauge.exchanges_pos_iff ordered, gauge.level_pass ordered, gauge.stock_pass ordered⟩
  | fenced front post rest free isFence inductionHypothesis =>
    have ordered : ∀ item ∈ front, among item ∧ fence item = false :=
      fun item member => ⟨members item (by simp [member]), free item member⟩
    obtain ⟨list, counted⟩ := pass_fenced fenced isFence members
    obtain ⟨restPos, restLevel, restStock⟩ :=
      inductionHypothesis fun item member => members item (by simp [member])
    have frontPos := gauge.exchanges_pos_iff ordered
    have frontLevel := gauge.level_pass ordered
    have frontStock := gauge.stock_pass ordered
    rw [list, counted, levelBetween_fenced free isFence,
      levelBetween_fenced (free_pass free) isFence, inversionsBetween_fenced free isFence,
      inversionsBetween_fenced (free_pass free) isFence]
    omega

/-- As many passes as the level says, or more, arrange a list between its fences. A part that is
arranged before the others is not disturbed by the passes that these still need. -/
theorem arrangesBetween_iterate (count : Nat) {items : List α}
    (members : ∀ item ∈ items, among item) (enough : levelBetween order fence items ≤ count) :
    ArrangesBetween order fence items ((pass order)^[count] items) := by
  induction items using fence_induction fence with
  | free items free =>
    rw [levelBetween_free free] at enough
    exact .of_free free (stablyArranges_iterate ranks count
      (fun item member => ⟨members item member, free item member⟩) enough)
  | fenced front post rest free isFence inductionHypothesis =>
    rw [levelBetween_fenced free isFence] at enough
    have ordered : ∀ item ∈ front, among item ∧ fence item = false :=
      fun item member => ⟨members item (by simp [member]), free item member⟩
    have arranges := stablyArranges_iterate ranks count ordered (by omega)
    have between := inductionHypothesis (fun item member => members item (by simp [member]))
      (by omega)
    rw [iterate_fenced fenced count isFence members]
    exact .append_fence free isFence arranges between

/-- The level and the inversions between fences gauge the passes, as the highest entry and the sum
of the table do without fences. -/
theorem between_gauge :
    Gauges order among (levelBetween order fence) (inversionsBetween order fence) where
  exchanges_pos_iff members := (pass_between ranks fenced members).1
  level_pass members := (pass_between ranks fenced members).2.1
  stock_pass members := (pass_between ranks fenced members).2.2
  stock_eq_zero none := inversionsBetween_eq_zero none

/-- The bubble sort of two items or more with fences among them arranges them between the fences and
takes the work that their parts need. As many passes as there are items are enough, and a larger
bound on their number does not change anything.

Proof: the passes of the sort are passes of the list, the level and the inversions gauge them, and
the first pass without an exchange comes when the level is zero. -/
theorem sort_between {n : Nat} (tells : order.Tells among) (size : Nat) (several : 2 ≤ size)
    (inside : size ≤ n) (items : Vector α n) (tally : Tally)
    (members : ∀ item ∈ items.toList.take size, among item) :
    ∃ sorted : Vector α n,
      ArrangesBetween order fence (items.toList.take size) (sorted.toList.take size) ∧
        sorted.toList.drop size = items.toList.drop size ∧
        levelBetween order fence (items.toList.take size) + 1 ≤ size ∧
        ∀ (pairs : size - 1 < n) (limit : Nat), size ≤ limit →
          passes order (size - 1) pairs limit items tally =
            .done sorted (tally.merge (workBetween order fence (items.toList.take size))) () := by
  have length : (items.toList.take size).length = size := by simp [inside]
  have bound : levelBetween order fence (items.toList.take size) ≤
      (items.toList.take size).length - 1 := levelBetween_le _
  rw [length] at bound
  obtain ⟨sorted, list, ended⟩ := (between_gauge ranks fenced).passes_done tells
    (show size - 1 < n by omega) items tally (List.take_append_drop size items.toList).symm
    (by omega) members
  have between := arrangesBetween_iterate ranks fenced _ members (Nat.le_succ _)
  have arrangedPerm := iterate_perm order
    (levelBetween order fence (items.toList.take size) + 1) (items.toList.take size)
  have arrangedLength := arrangedPerm.length_eq.trans length
  refine ⟨sorted, ?_, ?_, by omega, ?_⟩
  · rw [list, List.take_left' arrangedLength]
    exact between
  · rw [list, List.drop_left' arrangedLength]
  · intro pairs limit enough
    rw [ended limit (by omega), workBetween, length]

end

end Bubble

end SortBench.Sorting
