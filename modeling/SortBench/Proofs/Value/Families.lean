import Mathlib.Data.List.Lex
import Mathlib.Data.List.Pairwise
import Mathlib.Data.Sum.Order
import SortBench.Proofs.Sorting.Ascending
import SortBench.Proofs.Value.Places
import SortBench.Value.Order

/-!
# Families of values

Numbers of all three kinds, texts, and keyed items are the three families of values that have
an order among themselves; the absent value belongs to none. Two values can be compared exactly
when they are of one family. Within a family, and apart from values that are not a number, the
comparisons are those of a total preorder.

A value that is not a number is at most nothing and greater than nothing. It breaks totality,
but not transitivity: what is found not greater is found so of defined values only.
-/

namespace SortBench.Value

/-- A family of values that have an order among themselves. -/
inductive Family where
  /-- Integers, truth values and floating-point numbers. -/
  | number
  /-- Texts. -/
  | text
  /-- Keyed items. -/
  | item
  deriving DecidableEq, Repr

/-- The family of a value, if it belongs to one. Truth values are numbers; the absent value has no
family. -/
def family? : Value → Option Family
  | integer _ => some .number
  | boolean _ => some .number
  | real _ => some .number
  | text _ => some .text
  | absent => none
  | item _ _ _ => some .item

/-- A value is defined unless it is not a number. -/
def IsDefined (value : Value) : Prop :=
  ∀ label, value ≠ real (.nan label)

/-- A value of the family of numbers has a quantity. -/
theorem exists_quantity {value : Value} (numeric : value.family? = some .number) :
    ∃ quantity, value.quantity? = some quantity := by
  cases value with
  | integer number => exact ⟨_, rfl⟩
  | boolean truth => exact ⟨_, rfl⟩
  | real number => cases number <;> exact ⟨_, rfl⟩
  | _ => simp [family?] at numeric

theorem family?_of_quantity {value : Value} {quantity : Quantity}
    (numeric : value.quantity? = some quantity) : value.family? = some .number := by
  cases value with
  | integer number => rfl
  | boolean truth => rfl
  | real number => rfl
  | _ => simp [quantity?] at numeric

/-- Two values of one family are two numbers, two texts or two items. Comparisons are defined by
pairs of values, and these are the pairs that are answered. -/
theorem cases_of_family {a b : Value} {family : Family} (left : a.family? = some family)
    (right : b.family? = some family) :
    (∃ p q, a.quantity? = some p ∧ b.quantity? = some q) ∨
      (∃ s t, a = text s ∧ b = text t) ∨
        ∃ i k s j l t, a = item i k s ∧ b = item j l t := by
  cases family with
  | number =>
    obtain ⟨p, first⟩ := exists_quantity left
    obtain ⟨q, second⟩ := exists_quantity right
    exact Or.inl ⟨p, q, first, second⟩
  | text => cases a <;> cases b <;> simp [family?] at left right ⊢
  | item => cases a <;> cases b <;> simp [family?] at left right ⊢

/-- A number with an undefined quantity is not a number. -/
theorem IsDefined.quantity_ne {value : Value} (defined : value.IsDefined) {quantity : Quantity}
    (numeric : value.quantity? = some quantity) : quantity ≠ .undefined := by
  rintro rfl
  cases value with
  | real number =>
    cases number with
    | nan label => exact defined label rfl
    | infinite negative => cases negative <;> simp [quantity?] at numeric
    | finite negative mantissa exponent => simp [quantity?] at numeric
  | _ => simp [quantity?] at numeric

/-- A comparison of two values is answered exactly when they are of one family. It does not matter
which comparison it is, nor what it answers. -/
theorem decide_answers_iff (operator : Operator) (byQuantity : Quantity → Quantity → Bool)
    (byText : Text → Text → Bool) (byKey : Int → Int → Bool) (a b : Value) :
    (∃ answer, decide operator byQuantity byText byKey a b = .ok answer) ↔
      ∃ family, a.family? = some family ∧ b.family? = some family := by
  constructor
  · rintro ⟨answer, decided⟩
    unfold decide at decided
    split at decided
    case h_1 first second =>
      exact ⟨.number, family?_of_quantity first, family?_of_quantity second⟩
    case h_2 =>
      split at decided
      case h_1 => exact ⟨.text, rfl, rfl⟩
      case h_2 => exact ⟨.item, rfl, rfl⟩
      case h_3 => cases decided
  · rintro ⟨family, left, right⟩
    obtain ⟨p, q, first, second⟩ | ⟨s, t, rfl, rfl⟩ | ⟨i, k, s, j, l, t, rfl, rfl⟩ :=
      cases_of_family left right
    · exact ⟨byQuantity p q, by simp only [decide, first, second]⟩
    · exact ⟨byText s t, rfl⟩
    · exact ⟨byKey k l, rfl⟩

/-- Two numbers compare by their quantities. -/
theorem decide_of_quantities (operator : Operator) (byQuantity : Quantity → Quantity → Bool)
    (byText : Text → Text → Bool) (byKey : Int → Int → Bool) {a b : Value} {p q : Quantity}
    (first : a.quantity? = some p) (second : b.quantity? = some q) :
    decide operator byQuantity byText byKey a b = .ok (byQuantity p q) := by
  simp only [decide, first, second]

/-- A place on the line of one of the families. Places on different lines have no order. -/
abbrev Standing := WithBot (WithTop ℚ) ⊕ List Nat ⊕ Int

/-- Where a value stands in the order of its family; an undefined value stands nowhere. Three lines
that have nothing to do with each other serve as one order, which is not linear. -/
def standing? (value : Value) : Option Standing :=
  match value with
  | text content => some (.inr (.inl content.numbers))
  | item _ key _ => some (.inr (.inr key))
  | other => (other.quantity?.bind Quantity.place?).map .inl

/-- A number stands at the place of its quantity. -/
theorem standing?_of_quantity {value : Value} {quantity : Quantity}
    (numeric : value.quantity? = some quantity) :
    value.standing? = quantity.place?.map .inl := by
  cases value with
  | text content => simp [quantity?] at numeric
  | absent => simp [quantity?] at numeric
  | item label key tag => simp [quantity?] at numeric
  | integer number => simp only [standing?, numeric, Option.bind_some]
  | boolean truth => simp only [standing?, numeric, Option.bind_some]
  | real number => simp only [standing?, numeric, Option.bind_some]

/-- The family whose line a place is on. -/
def Standing.family : Standing → Family
  | .inl _ => .number
  | .inr (.inl _) => .text
  | .inr (.inr _) => .item

theorem family?_of_standing {value : Value} {place : Standing}
    (stands : value.standing? = some place) : value.family? = some place.family := by
  cases numeric : value.quantity? with
  | some quantity =>
    rw [standing?_of_quantity numeric] at stands
    obtain ⟨position, _, rfl⟩ := Option.map_eq_some_iff.mp stands
    exact family?_of_quantity numeric
  | none =>
    cases value with
    | text content => cases stands; rfl
    | item label key tag => cases stands; rfl
    | _ => simp [standing?, numeric] at stands

/-- Places in order are on one line. -/
theorem Standing.family_eq_of_le {p q : Standing} (below : p ≤ q) : p.family = q.family := by
  rcases p with p | p | p <;> rcases q with q | q | q <;> first | rfl | simp at below

/-- A comparison that reads off, within each family, whether two places are in a relation that
relates no places on different lines, reads it off for all values. It is stated for any relation,
because both comparisons are instances. -/
theorem decide_iff {operator : Operator} {byQuantity : Quantity → Quantity → Bool}
    {byText : Text → Text → Bool} {byKey : Int → Int → Bool} {related : Standing → Standing → Prop}
    (oneLine : ∀ p q, related p q → p.family = q.family)
    (onNumbers : ∀ p q, byQuantity p q = true ↔
      ∃ x y, p.place? = some x ∧ q.place? = some y ∧ related (.inl x) (.inl y))
    (onTexts : ∀ s t : Text, byText s t = true ↔
      related (.inr (.inl s.numbers)) (.inr (.inl t.numbers)))
    (onKeys : ∀ k l, byKey k l = true ↔ related (.inr (.inr k)) (.inr (.inr l))) (a b : Value) :
    decide operator byQuantity byText byKey a b = .ok true ↔
      ∃ p q, a.standing? = some p ∧ b.standing? = some q ∧ related p q := by
  by_cases common : ∃ family, a.family? = some family ∧ b.family? = some family
  · obtain ⟨family, left, right⟩ := common
    obtain ⟨p, q, first, second⟩ | ⟨s, t, rfl, rfl⟩ | ⟨i, k, s, j, l, t, rfl, rfl⟩ :=
      cases_of_family left right
    · rw [decide_of_quantities _ _ _ _ first second, standing?_of_quantity first,
        standing?_of_quantity second, Except.ok.injEq, onNumbers]
      constructor
      · rintro ⟨x, y, firstPlace, secondPlace, ordered⟩
        exact ⟨.inl x, .inl y, by rw [firstPlace]; rfl, by rw [secondPlace]; rfl, ordered⟩
      · rintro ⟨_, _, firstStands, secondStands, ordered⟩
        obtain ⟨x, firstPlace, rfl⟩ := Option.map_eq_some_iff.mp firstStands
        obtain ⟨y, secondPlace, rfl⟩ := Option.map_eq_some_iff.mp secondStands
        exact ⟨x, y, firstPlace, secondPlace, ordered⟩
    · simp [decide, quantity?, standing?, onTexts]
    · simp [decide, quantity?, standing?, onKeys]
  · constructor
    · intro decided
      exact absurd ((decide_answers_iff ..).mp ⟨true, decided⟩) common
    · rintro ⟨p, q, left, right, ordered⟩
      have same := oneLine p q ordered
      exact absurd ⟨q.family, same ▸ family?_of_standing left, family?_of_standing right⟩ common

/-- A value is found not greater than another exactly when both stand on one line, in this order. -/
theorem le?_iff (a b : Value) :
    a.le? b = .ok true ↔
      ∃ p q, a.standing? = some p ∧ b.standing? = some q ∧ p ≤ q := by
  apply decide_iff
  · exact fun p q => Standing.family_eq_of_le
  · intro p q
    rw [Quantity.le_iff]
    simp
  · intro s t
    rw [Bool.not_eq_true', decide_eq_false_iff_not, Sum.inr_le_inr_iff, Sum.inl_le_inl_iff]
    exact not_lt (a := t.numbers) (b := s.numbers)
  · intro k l
    simp

/-- A value is found greater than another exactly when both stand on one line, in the reverse
order. -/
theorem gt?_iff (a b : Value) :
    a.gt? b = .ok true ↔
      ∃ p q, a.standing? = some p ∧ b.standing? = some q ∧ q < p := by
  apply decide_iff
  · exact fun p q below => (Standing.family_eq_of_le below.le).symm
  · intro p q
    rw [Quantity.gt_iff]
    simp
  · intro s t
    rw [decide_eq_true_iff, Sum.inr_lt_inr_iff, Sum.inl_lt_inl_iff]
    rfl
  · intro k l
    simp

/-- Not to be greater is transitive, for all values. Undefined values make no exception, as they are
in no order with anything. -/
theorem le?_trans {a b c : Value} (first : a.le? b = .ok true) (second : b.le? c = .ok true) :
    a.le? c = .ok true := by
  obtain ⟨p, q, aStands, bStands, below⟩ := (le?_iff a b).mp first
  obtain ⟨q', r, bAgain, cStands, above⟩ := (le?_iff b c).mp second
  obtain rfl : q' = q := Option.some.inj (bAgain.symm.trans bStands)
  exact (le?_iff a c).mpr ⟨p, r, aStands, cStands, below.trans above⟩

/-- A defined value of a family stands on its line. -/
theorem exists_standing {value : Value} {family : Family} (belongs : value.family? = some family)
    (defined : value.IsDefined) : ∃ place, value.standing? = some place := by
  cases numeric : value.quantity? with
  | some quantity =>
    obtain ⟨position, found⟩ := quantity.exists_place (defined.quantity_ne numeric)
    exact ⟨.inl position, by rw [standing?_of_quantity numeric, found]; rfl⟩
  | none =>
    cases value with
    | text content => exact ⟨_, rfl⟩
    | item label key tag => exact ⟨_, rfl⟩
    | absent => simp [family?] at belongs
    | integer number => simp [quantity?] at numeric
    | boolean truth => simp [quantity?] at numeric
    | real number => cases number <;> simp [quantity?] at numeric

/-- Of two places on one line exactly one is not greater, or the other is less. -/
theorem Standing.not_le_iff {p q : Standing} (oneLine : p.family = q.family) :
    ¬ p ≤ q ↔ q < p := by
  rcases p with p | p | p <;> rcases q with q | q | q <;> simp_all [family]

/-- The defined values of a family, as a class of items. -/
def IsOrdered (family : Family) (value : Value) : Prop :=
  value.family? = some family ∧ value.IsDefined

/-- On the defined values of a family the comparisons are those of a total preorder. It is a
preorder only: values of several spellings, and items with one key, tie without being equal. -/
theorem order_ranks (family : Family) : order.Ranks (IsOrdered family) := by
  have placed {a b : Value} (left : IsOrdered family a) (right : IsOrdered family b) :
      ∃ p q, a.standing? = some p ∧ b.standing? = some q ∧ p.family = q.family := by
    obtain ⟨p, aStands⟩ := exists_standing left.1 left.2
    obtain ⟨q, bStands⟩ := exists_standing right.1 right.2
    have pFamily := left.1.symm.trans (family?_of_standing aStands)
    have qFamily := right.1.symm.trans (family?_of_standing bStands)
    exact ⟨p, q, aStands, bStands, Option.some.inj (pFamily.symm.trans qFamily)⟩
  refine ⟨?_, ?_, fun _ _ _ => le?_trans, ?_⟩
  · intro a b left right
    exact (decide_answers_iff ..).mpr ⟨family, left.1, right.1⟩
  · intro a b left right greater
    obtain ⟨p, q, aStands, bStands, oneLine⟩ := placed left right
    have above : ¬ p ≤ q := fun below =>
      absurd (greater.symm.trans ((le?_iff a b).mpr ⟨p, q, aStands, bStands, below⟩)) (by decide)
    exact (le?_iff b a).mpr ⟨q, p, bStands, aStands, ((Standing.not_le_iff oneLine).mp above).le⟩
  · intro a b answer left right compared
    obtain ⟨p, q, aStands, bStands, oneLine⟩ := placed left right
    obtain ⟨opposite, answered⟩ : ∃ opposite, a.gt? b = .ok opposite :=
      (decide_answers_iff ..).mpr ⟨family, left.1, right.1⟩
    have notGreater : answer = true ↔ p ≤ q := by
      have read := le?_iff a b
      simpa [show a.le? b = .ok answer from compared, aStands, bStands] using read
    have greater : opposite = true ↔ q < p := by
      have read := gt?_iff a b
      simpa [answered, aStands, bStands] using read
    have flipped : opposite = !answer := by
      rw [Bool.eq_iff_iff, Bool.not_eq_true', ← Bool.not_eq_true, greater, notGreater]
      exact (Standing.not_le_iff oneLine).symm
    exact flipped ▸ answered

/-- A value that stands on a line is defined. -/
theorem IsDefined.of_standing {value : Value} {place : Standing}
    (stands : value.standing? = some place) : value.IsDefined := by
  rintro label rfl
  cases stands

/-- Values of which any two are in order one way or the other, each with itself included, are
ordered values of one family: only values of one family have an order, and one that is not a number
is not in order with itself. -/
theorem exists_family_of_total (among : Value → Prop)
    (total : ∀ a b, among a → among b → a.le? b = .ok true ∨ b.le? a = .ok true) :
    ∃ family, ∀ value, among value → IsOrdered family value := by
  by_cases inhabited : ∃ value, among value
  · obtain ⟨first, member⟩ := inhabited
    have reflexive : first.le? first = .ok true := or_self_iff.mp (total _ _ member member)
    obtain ⟨place, _, stands, _, _⟩ := (le?_iff first first).mp reflexive
    refine ⟨place.family, ?_⟩
    intro value valueMember
    have oneLine (a b : Value) (compared : a.le? b = .ok true) :
        a.family? = b.family? ∧ a.IsDefined ∧ b.IsDefined := by
      obtain ⟨p, q, aStands, bStands, below⟩ := (le?_iff a b).mp compared
      refine ⟨?_, .of_standing aStands, .of_standing bStands⟩
      rw [family?_of_standing aStands, family?_of_standing bStands, Standing.family_eq_of_le below]
    obtain below | above := total first value member valueMember
    · obtain ⟨same, _, defined⟩ := oneLine _ _ below
      exact ⟨same.symm.trans (family?_of_standing stands), defined⟩
    · obtain ⟨same, defined, _⟩ := oneLine _ _ above
      exact ⟨same.trans (family?_of_standing stands), defined⟩
  · exact ⟨.number, fun value member => absurd ⟨value, member⟩ inhabited⟩

/-- A value that is found to be not greater is not found to be greater. -/
theorem gt?_of_le? {a b : Value} (compared : a.le? b = .ok true) : a.gt? b = .ok false := by
  obtain ⟨p, q, aStands, bStands, below⟩ := (le?_iff a b).mp compared
  obtain ⟨family, aFamily, bFamily⟩ := (decide_answers_iff ..).mp ⟨true, compared⟩
  obtain ⟨answer, answered⟩ : ∃ answer, a.gt? b = .ok answer :=
    (decide_answers_iff ..).mpr ⟨family, aFamily, bFamily⟩
  cases answer with
  | false => exact answered
  | true =>
    obtain ⟨p', q', aAgain, bAgain, above⟩ := (gt?_iff a b).mp answered
    obtain rfl : p' = p := Option.some.inj (aAgain.symm.trans aStands)
    obtain rfl : q' = q := Option.some.inj (bAgain.symm.trans bStands)
    exact absurd below (not_le_of_gt above)

/-- Of two defined values, one that was found not to be greater is found to be not greater. For
undefined ones both questions are answered with no. -/
theorem le?_of_gt? {a b : Value} (left : a.IsDefined) (right : b.IsDefined)
    (compared : a.gt? b = .ok false) : a.le? b = .ok true := by
  obtain ⟨family, aFamily, bFamily⟩ := (decide_answers_iff ..).mp ⟨false, compared⟩
  obtain ⟨answer, answered⟩ : ∃ answer, a.le? b = .ok answer :=
    (decide_answers_iff ..).mpr ⟨family, aFamily, bFamily⟩
  have opposite : a.gt? b = .ok !answer :=
    (order_ranks family).opposite ⟨aFamily, left⟩ ⟨bFamily, right⟩ answered
  have notGreater : answer = true := by
    simpa using Except.ok.inj (opposite.symm.trans compared)
  exact notGreater ▸ answered

/-- A value that is found greater than another is not found to be at most it, but the other one is
found so the other way round. -/
theorem le?_of_greater {a b : Value} (greater : a.gt? b = .ok true) :
    a.le? b = .ok false ∧ b.le? a = .ok true := by
  obtain ⟨p, q, aStands, bStands, above⟩ := (gt?_iff a b).mp greater
  refine ⟨?_, (le?_iff b a).mpr ⟨q, p, bStands, aStands, above.le⟩⟩
  obtain ⟨answer, answered⟩ : ∃ answer, a.le? b = .ok answer :=
    (decide_answers_iff ..).mpr ((decide_answers_iff ..).mp ⟨true, greater⟩)
  cases answer with
  | false => exact answered
  | true => cases greater.symm.trans (gt?_of_le? answered)

/-- To be greater is transitive. -/
theorem gt?_trans {a b c : Value} (first : a.gt? b = .ok true) (second : b.gt? c = .ok true) :
    a.gt? c = .ok true := by
  obtain ⟨p, q, aStands, bStands, above⟩ := (gt?_iff a b).mp first
  obtain ⟨q', r, bAgain, cStands, below⟩ := (gt?_iff b c).mp second
  obtain rfl : q' = q := Option.some.inj (bAgain.symm.trans bStands)
  exact (gt?_iff a c).mpr ⟨p, r, aStands, cStands, below.trans above⟩

/-- A value that is in order with another is in order with itself. -/
theorem le?_self {a b : Value} (compared : a.le? b = .ok true ∨ b.le? a = .ok true) :
    a.le? a = .ok true := by
  obtain ⟨place, stands⟩ : ∃ place, a.standing? = some place := by
    obtain below | above := compared
    · obtain ⟨place, _, stands, _⟩ := (le?_iff a b).mp below
      exact ⟨place, stands⟩
    · obtain ⟨_, place, _, stands, _⟩ := (le?_iff b a).mp above
      exact ⟨place, stands⟩
  exact (le?_iff a a).mpr ⟨place, place, stands, stands, le_rfl⟩

/-- Several values of which every two are in order, one way or the other, are ordered values of one
family. A single value is in no pair, and may be anything. -/
theorem exists_family_of_pairwise {values : List Value} (several : 2 ≤ values.length)
    (compared : values.Pairwise fun left right =>
      left.le? right = .ok true ∨ right.le? left = .ok true) :
    ∃ family, ∀ value ∈ values, IsOrdered family value := by
  have symmetric : Std.Symm fun left right : Value =>
      left.le? right = .ok true ∨ right.le? left = .ok true := ⟨fun _ _ => Or.symm⟩
  refine exists_family_of_total (· ∈ values) ?_
  have reflexive : ∀ value ∈ values, value.le? value = .ok true := by
    obtain _ | ⟨first, _ | ⟨second, rest⟩⟩ := values
    · simp at several
    · simp at several
    · obtain ⟨head, tail⟩ := List.pairwise_cons.mp compared
      intro value member
      obtain rfl | later := List.mem_cons.mp member
      · exact le?_self (head second List.mem_cons_self)
      · exact le?_self (head value later).symm
  intro a b left right
  exact @List.Pairwise.forall_of_forall _ _ _ symmetric
    (fun value member => Or.inl (reflexive value member)) compared a left b right

end SortBench.Value
