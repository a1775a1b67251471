import Mathlib.Algebra.GroupWithZero.Nat
import Mathlib.Logic.Function.Iterate
import SortBench.Proofs.Sorting.Stable

/-!
# The inversion table under a pass

For each item of a list the inversion table has the number of earlier items that are greater. A
pass of the bubble sort lowers every entry that is not zero by one and moves the table by one
place: the item that is carried along is the largest so far, so it is one of the items that an
overtaken item has before it, and no other one changes sides with it. Hence the entries say how
many exchanges there will be in all, and the highest one how many passes make exchanges.

An entry is zero for exactly those items that the pass takes up and carries along in their turn.
-/

namespace SortBench.Sorting

variable {α ε : Type}

/-- The highest of some numbers; zero if there are none. -/
def highest (numbers : List Nat) : Nat :=
  numbers.foldr max 0

/-- For each item of a list, how many of the items before it are greater. The sum of the table is
the number of inversions, and its highest entry is the number of passes that have something to
exchange. -/
def inversionTable (order : Comparison α ε) (items : List α) : List Nat :=
  items.mapIdx fun position item => (items.take position).countP (order.exceeds · item)

/-- The inversion table of a list that goes on after earlier items, whose order does not count. This
is the form in which a pass, half-way through the list, can be described. -/
def overtaken (order : Comparison α ε) : (earlier items : List α) → List Nat
  | _, [] => []
  | earlier, item :: rest =>
    earlier.countP (order.exceeds · item) :: overtaken order (item :: earlier) rest

/-- The entries by position: the greater ones of the earlier items and of those before it. From this
form what is known of counting applies entry by entry. -/
theorem overtaken_eq_mapIdx (order : Comparison α ε) (earlier items : List α) :
    overtaken order earlier items = items.mapIdx fun position item =>
      earlier.countP (order.exceeds · item) +
        (items.take position).countP (order.exceeds · item) := by
  induction items generalizing earlier with
  | nil => rfl
  | cons item rest inductionHypothesis =>
    rw [overtaken, inductionHypothesis, List.mapIdx_cons]
    congr 1
    simp [List.countP_cons, Nat.add_assoc, Nat.add_comm, Nat.add_left_comm]

theorem inversionTable_eq (order : Comparison α ε) (items : List α) :
    inversionTable order items = overtaken order [] items := by
  simp [inversionTable, overtaken_eq_mapIdx]

/-- The order of the earlier items does not count. A pass rearranges the items behind it, so this is
what lets the table go on unchanged. -/
theorem overtaken_perm (order : Comparison α ε) {earlier other : List α}
    (same : earlier.Perm other) (items : List α) :
    overtaken order earlier items = overtaken order other items := by
  simp only [overtaken_eq_mapIdx, same.countP_eq]

/-- No entry reaches the number of all items, as an item does not count itself. It bounds the passes
by the number of items. -/
theorem highest_overtaken_le (order : Comparison α ε) (earlier items : List α) :
    highest (overtaken order earlier items) ≤ earlier.length + items.length - 1 := by
  induction items generalizing earlier with
  | nil => exact Nat.zero_le _
  | cons item rest inductionHypothesis =>
    have first : earlier.countP (order.exceeds · item) ≤ earlier.length := List.countP_le_length
    have others := inductionHypothesis (item :: earlier)
    simp only [overtaken, highest, List.foldr_cons, List.length_cons] at others ⊢
    omega

/-- Where no entry is above zero, no item is greater than a later one, and no earlier item is
greater than one of the list. -/
theorem pairwise_of_highest {order : Comparison α ε} {earlier items : List α}
    (none : highest (overtaken order earlier items) = 0) :
    (∀ item ∈ earlier, ∀ later ∈ items, order.exceeds item later = false) ∧
      items.Pairwise fun a b => order.exceeds a b = false := by
  induction items generalizing earlier with
  | nil => simp
  | cons first rest inductionHypothesis =>
    simp only [overtaken, highest, List.foldr_cons, Nat.max_eq_zero_iff, List.countP_eq_zero,
      Bool.not_eq_true] at none
    obtain ⟨before, after⟩ := inductionHypothesis none.2
    simp only [List.forall_mem_cons] at before
    constructor
    · simp only [List.forall_mem_cons]
      exact fun item member => ⟨none.1 item member, before.2 item member⟩
    · exact List.pairwise_cons.mpr ⟨before.1, after⟩

/-- Where no entry of the inversion table is above zero, the list is ascending. For this the
comparisons have to rank the items: not to be found greater must mean to be not greater. -/
theorem ascending_of_highest {order : Comparison α ε} {among : α → Prop}
    (ranks : order.Ranks among) {items : List α} (members : ∀ item ∈ items, among item)
    (none : highest (inversionTable order items) = 0) :
    items.Pairwise fun a b => order.le a b = .ok true := by
  rw [inversionTable_eq] at none
  apply (pairwise_of_highest none).2.imp_of_mem
  intro a b left right notGreater
  exact (ranks.le_iff (members a left) (members b right)).mpr notGreater

/-- An entry above zero is one, and one less than itself. Summed up: a pass takes as many inversions
away as there are such entries. -/
theorem sum_map_pred (numbers : List Nat) :
    numbers.sum = numbers.countP (0 < ·) + (numbers.map (· - 1)).sum := by
  induction numbers with
  | nil => rfl
  | cons number rest inductionHypothesis =>
    simp only [List.sum_cons, List.countP_cons, List.map_cons, decide_eq_true_eq]
    split <;> omega

/-- With all entries lowered, so is the highest; a zero does not raise it. -/
theorem highest_map_pred (numbers : List Nat) :
    highest (numbers.map (· - 1) ++ [0]) = highest numbers - 1 := by
  induction numbers with
  | nil => rfl
  | cons number rest inductionHypothesis =>
    simp only [highest, List.map_cons, List.cons_append, List.foldr_cons] at inductionHypothesis ⊢
    omega

/-- The highest entry is above zero if one of them is, and only then. So long as a pass has
something to exchange, the level is not zero. -/
theorem highest_pos_iff (numbers : List Nat) :
    0 < highest numbers ↔ 0 < numbers.countP (0 < ·) := by
  induction numbers with
  | nil => simp [highest]
  | cons number rest inductionHypothesis =>
    simp only [highest, List.foldr_cons, List.countP_cons, decide_eq_true_eq]
      at inductionHypothesis ⊢
    split <;> omega

theorem sum_eq_zero_of_highest {numbers : List Nat} (none : highest numbers = 0) :
    numbers.sum = 0 := by
  induction numbers with
  | nil => rfl
  | cons number rest inductionHypothesis =>
    simp only [highest, List.foldr_cons, Nat.max_eq_zero_iff] at none inductionHypothesis
    simp [none.1, inductionHypothesis none.2]

namespace Bubble

/-- What a pass makes of the item that it carries and of those that it comes to. The greater one of
a pair is carried on, and a tie is not exchanged. -/
def carried (order : Comparison α ε) : (held : α) → (rest : List α) → List α
  | held, [] => [held]
  | held, next :: rest =>
    if order.exceeds held next then next :: carried order held rest
    else held :: carried order next rest

/-- How often a pass exchanges the item that it carries with one that it comes to. -/
def exchanges (order : Comparison α ε) : (held : α) → (rest : List α) → Nat
  | _, [] => 0
  | held, next :: rest =>
    if order.exceeds held next then exchanges order held rest + 1
    else exchanges order next rest

/-- What a pass makes of a list, of which it carries the first item. -/
def pass (order : Comparison α ε) : List α → List α
  | [] => []
  | first :: rest => carried order first rest

/-- How many exchanges a pass over a list makes. -/
def passExchanges (order : Comparison α ε) : List α → Nat
  | [] => 0
  | first :: rest => exchanges order first rest

/-- Two figures of the lists over a class that tell how long passes go on: every pass that makes
exchanges lowers the *level* by one and the *stock* by as many as it makes, and there are exchanges
as long as the level is above zero. -/
structure Gauges (order : Comparison α ε) (among : α → Prop) (level stock : List α → Nat) :
    Prop where
  /-- A pass makes exchanges exactly above level zero. -/
  exchanges_pos_iff : ∀ {items : List α}, (∀ item ∈ items, among item) →
    (0 < passExchanges order items ↔ 0 < level items)
  /-- A pass lowers the level by one. -/
  level_pass : ∀ {items : List α}, (∀ item ∈ items, among item) →
    level (pass order items) = level items - 1
  /-- A pass takes its exchanges out of the stock. -/
  stock_pass : ∀ {items : List α}, (∀ item ∈ items, among item) →
    stock items = passExchanges order items + stock (pass order items)
  /-- At level zero nothing is left. -/
  stock_eq_zero : ∀ {items : List α}, level items = 0 → stock items = 0

section

variable {order : Comparison α ε} {among : α → Prop} {held next : α} {passed rest : List α}

/-- A pass that has come past some items carries one that none of them exceeds. This is the
invariant of a pass, and its end says that the greatest item comes last. -/
structure Leads (order : Comparison α ε) (among : α → Prop) (held : α) (passed : List α) :
    Prop where
  /-- The item carried is of the class. -/
  member : among held
  /-- So are the items passed. -/
  members : ∀ item ∈ passed, among item
  /-- None of them exceeds it. -/
  largest : ∀ item ∈ passed, order.exceeds item held = false

/-- An item that is exceeded is passed: it goes in front of the one that is carried, which still
none exceeds. -/
theorem Leads.keep (ranks : order.Ranks among) (leads : Leads order among held passed)
    (member : among next) (greater : order.exceeds held next = true) :
    Leads order among held (next :: passed) := by
  constructor
  · exact leads.member
  · exact List.forall_mem_cons.mpr ⟨member, leads.members⟩
  · exact List.forall_mem_cons.mpr
      ⟨ranks.exceeds_asymm leads.member member greater, leads.largest⟩

/-- An item that is not exceeded is taken up, and the one carried so far is passed. None of those
passed before exceeds the new one, by transitivity. -/
theorem Leads.yield (ranks : order.Ranks among) (leads : Leads order among held passed)
    (member : among next) (notGreater : order.exceeds held next = false) :
    Leads order among next (held :: passed) := by
  constructor
  · exact member
  · exact List.forall_mem_cons.mpr ⟨leads.member, leads.members⟩
  · refine List.forall_mem_cons.mpr ⟨notGreater, ?_⟩
    intro item inPassed
    exact ranks.not_exceeds_trans (leads.members item inPassed) leads.member member
      (leads.largest item inPassed) notGreater

/-- The item carried accounts for one of those that exceed an overtaken one. It is the one that the
pass exchanges it with, which is why the entry is lowered by one. -/
theorem countP_of_greater (greater : order.exceeds held next = true) :
    (held :: passed).countP (order.exceeds · next) =
      passed.countP (order.exceeds · next) + 1 := by
  simp [greater]

/-- An item that is taken up is not exceeded by any before it, so its entry is zero and no exchange
is made. -/
theorem Leads.countP_of_notGreater (ranks : order.Ranks among)
    (leads : Leads order among held passed) (member : among next)
    (notGreater : order.exceeds held next = false) :
    (held :: passed).countP (order.exceeds · next) = 0 := by
  simpa [List.countP_eq_zero] using (leads.yield ranks member notGreater).largest

/-- A pass lowers the entries of the items to come by one; that of the last item is zero.

Proof: by induction on the items to come, with the invariant that the item carried is exceeded by
none of those passed. An overtaken item loses one entry to the item carried, and an item that is
taken up has none to lose. -/
theorem overtaken_carried (ranks : order.Ranks among) (leads : Leads order among held passed)
    (members : ∀ item ∈ rest, among item) :
    overtaken order passed (carried order held rest) =
      (overtaken order (held :: passed) rest).map (· - 1) ++ [0] := by
  have unexceeded : passed.countP (order.exceeds · held) = 0 := by
    simpa [List.countP_eq_zero] using leads.largest
  induction rest generalizing held passed with
  | nil => simp [carried, overtaken, unexceeded]
  | cons next rest inductionHypothesis =>
    obtain ⟨member, members⟩ := List.forall_mem_cons.mp members
    rw [carried, overtaken]
    cases compared : order.exceeds held next with
    | true =>
      have keeps := leads.keep ranks member compared
      have rest := inductionHypothesis keeps members (by
        simpa [List.countP_eq_zero] using keeps.largest)
      rw [if_pos rfl, overtaken, rest, countP_of_greater compared, List.map_cons,
        Nat.add_sub_cancel, overtaken_perm order (.swap next held passed)]
      rfl
    | false =>
      have yields := leads.yield ranks member compared
      have rest := inductionHypothesis yields members (by
        simpa [List.countP_eq_zero] using yields.largest)
      rw [if_neg Bool.false_ne_true, overtaken, rest, unexceeded,
        leads.countP_of_notGreater ranks member compared, List.map_cons]
      rfl

/-- A pass makes an exchange for each entry that is not zero. The entries can be read off before the
pass is made, so the work of the sort is a figure of the list that it is given. -/
theorem exchanges_eq (ranks : order.Ranks among) (leads : Leads order among held passed)
    (members : ∀ item ∈ rest, among item) :
    exchanges order held rest = (overtaken order (held :: passed) rest).countP (0 < ·) := by
  induction rest generalizing held passed with
  | nil => rfl
  | cons next rest inductionHypothesis =>
    obtain ⟨member, members⟩ := List.forall_mem_cons.mp members
    rw [exchanges, overtaken]
    cases compared : order.exceeds held next with
    | true =>
      have rest := inductionHypothesis (leads.keep ranks member compared) members
      rw [if_pos rfl, rest, countP_of_greater compared, List.countP_cons,
        overtaken_perm order (.swap held next passed)]
      simp
    | false =>
      have rest := inductionHypothesis (leads.yield ranks member compared) members
      rw [if_neg Bool.false_ne_true, rest, leads.countP_of_notGreater ranks member compared,
        List.countP_cons]
      simp

/-- The inversion tables before and after a pass that starts with its first item. The entry of this
item is zero, as nothing stands before it, and the other entries move forward by one place. -/
theorem inversionTable_carried (ranks : order.Ranks among) (first : α) (rest : List α)
    (members : ∀ item ∈ first :: rest, among item) :
    ∃ entries, inversionTable order (first :: rest) = 0 :: entries ∧
      inversionTable order (carried order first rest) = entries.map (· - 1) ++ [0] ∧
      exchanges order first rest = entries.countP (0 < ·) := by
  obtain ⟨member, members⟩ := List.forall_mem_cons.mp members
  have leads : Leads order among first [] := ⟨member, by simp, by simp⟩
  refine ⟨overtaken order [first] rest, ?_, ?_, exchanges_eq ranks leads members⟩
  · rw [inversionTable_eq, overtaken, List.countP_nil]
  · rw [inversionTable_eq, overtaken_carried ranks leads members]

/-- The highest entry of the inversion table and the sum of its entries gauge the passes. So the
sort makes as many exchanges as there are inversions, and one pass more than the highest entry. -/
theorem inversions_gauge (ranks : order.Ranks among) :
    Gauges order among (fun items => highest (inversionTable order items))
      fun items => (inversionTable order items).sum := by
  constructor
  · intro items members
    cases items with
    | nil => simp [passExchanges, inversionTable, highest]
    | cons first rest =>
      obtain ⟨entries, before, _, counted⟩ := inversionTable_carried ranks first rest members
      rw [passExchanges, before, counted, ← highest_pos_iff]
      simp [highest]
  · intro items members
    cases items with
    | nil => rfl
    | cons first rest =>
      obtain ⟨entries, before, after, _⟩ := inversionTable_carried ranks first rest members
      rw [pass, before, after, highest_map_pred]
      simp [highest]
  · intro items members
    cases items with
    | nil => rfl
    | cons first rest =>
      obtain ⟨entries, before, after, counted⟩ := inversionTable_carried ranks first rest members
      simp [pass, passExchanges, before, after, counted, sum_map_pred entries]
  · exact fun none => sum_eq_zero_of_highest none

/-- A pass rearranges the item that it carries and those that it comes to, whatever the comparisons
say. -/
theorem carried_perm (order : Comparison α ε) (held : α) (rest : List α) :
    (carried order held rest).Perm (held :: rest) := by
  induction rest generalizing held with
  | nil => exact .refl _
  | cons next rest inductionHypothesis =>
    rw [carried]
    split
    · exact ((inductionHypothesis held).cons next).trans (.swap held next rest)
    · exact (inductionHypothesis next).cons held

/-- A pass keeps the order of the items that tie with any given one: of two items that are exchanged
one exceeds the other, so they do not both tie with it. -/
theorem filter_carried (ranks : order.Ranks among) {item : α} (given : among item) (held : α)
    (rest : List α) (members : ∀ other ∈ held :: rest, among other) :
    (carried order held rest).filter (order.ties item) =
      (held :: rest).filter (order.ties item) := by
  induction rest generalizing held with
  | nil => rfl
  | cons next rest inductionHypothesis =>
    simp only [List.forall_mem_cons] at members inductionHypothesis
    obtain ⟨heldMember, nextMember, restMembers⟩ := members
    rw [carried]
    cases compared : order.exceeds held next with
    | true =>
      have apart : order.ties item held = false ∨ order.ties item next = false := by
        by_contra both
        simp only [not_or, Bool.not_eq_false] at both
        have notGreater := ranks.not_exceeds_of_ties given heldMember nextMember both.1 both.2
        simp [compared] at notGreater
      have inner := inductionHypothesis held ⟨heldMember, restMembers⟩
      rw [if_pos rfl, List.filter_cons, inner, List.filter_cons, List.filter_cons,
        List.filter_cons]
      obtain heldApart | nextApart := apart
      · simp [heldApart]
      · simp [nextApart]
    | false =>
      have inner := inductionHypothesis next ⟨nextMember, restMembers⟩
      rw [if_neg Bool.false_ne_true, List.filter_cons, inner, ← List.filter_cons]

theorem pass_perm (order : Comparison α ε) (items : List α) : (pass order items).Perm items := by
  cases items with
  | nil => exact .refl []
  | cons first rest => exact carried_perm order first rest

/-- A pass keeps the order of items that tie. Any number of passes therefore does, which makes the
sort stable. -/
theorem keepsTies_pass (ranks : order.Ranks among) {items : List α}
    (members : ∀ item ∈ items, among item) : KeepsTies order items (pass order items) := by
  refine ⟨pass_perm order items, ?_⟩
  intro item given
  cases items with
  | nil => rfl
  | cons first rest => exact filter_carried ranks (members item given) first rest members

/-- As many passes as the highest entry of the inversion table says, or more, leave a list in its
stable ascending arrangement. A list has only one such arrangement, so further passes change
nothing. -/
theorem stablyArranges_iterate (ranks : order.Ranks among) (count : Nat) {items : List α}
    (members : ∀ item ∈ items, among item)
    (enough : highest (inversionTable order items) ≤ count) :
    StablyArranges order items ((pass order)^[count] items) := by
  induction count generalizing items with
  | zero => exact ⟨.refl order items, ascending_of_highest ranks members (Nat.le_zero.mp enough)⟩
  | succ count inductionHypothesis =>
    have keeps := keepsTies_pass ranks members
    have lowered := (inversions_gauge ranks).level_pass members
    have arranges := inductionHypothesis (keeps.among members) (by omega)
    exact ⟨keeps.trans arranges.toKeepsTies, arranges.ascending⟩

end

end Bubble

end SortBench.Sorting
