import Mathlib.Tactic.Ring
import SortBench.Proofs.Numeral.ReadBack
import SortBench.Proofs.Value.Families
import SortBench.Value.Conversion
import SortBench.Value.Sameness

/-!
# Sameness of numbers

The mark of a finite number is the number in lowest terms, its mantissa odd unless it is zero. A
number has one such form only, so two defined numbers have one mark exactly when they are at one
place of the line, that is, when neither is greater than the other.

The integer of a number is cut off from its quantity, whatever kind of number it is and however its
mantissa and exponent are chosen. So it depends on the mark alone: all spellings of a number convert
to one integer.
-/

namespace SortBench

namespace Mark

/-- A mantissa and an exponent in lowest terms. -/
def IsReduced (mantissa exponent : Int) : Prop :=
  mantissa % 2 = 1 ∨ mantissa = 0 ∧ exponent = 0

/-- Moving factors of two into the exponent does not change the number. -/
theorem reduce_mul (magnitude : Nat) (exponent : Int) :
    ((reduce magnitude exponent).1 : ℚ) * 2 ^ (reduce magnitude exponent).2 =
      magnitude * 2 ^ exponent := by
  fun_induction reduce magnitude exponent with
  | case1 magnitude exponent even inductionHypothesis =>
    obtain ⟨half, double⟩ := Nat.dvd_of_mod_eq_zero even.2
    rw [inductionHypothesis, zpow_add_one₀ (by norm_num), double,
      Nat.mul_div_cancel_left half (by decide)]
    push_cast
    ring
  | case2 => rfl

/-- It ends with an odd magnitude. -/
theorem reduce_odd {magnitude : Nat} (exponent : Int) (positive : 0 < magnitude) :
    (reduce magnitude exponent).1 % 2 = 1 := by
  fun_induction reduce magnitude exponent with
  | case1 magnitude exponent even inductionHypothesis => exact inductionHypothesis (by omega)
  | case2 magnitude exponent odd => omega

/-- Doubling the magnitude and lowering the exponent by one does not change the integer that is cut
off. -/
theorem truncated_double (negative : Bool) (half : Nat) (exponent : Int) :
    Binary64.truncated negative (2 * half) exponent =
      Binary64.truncated negative half (exponent + 1) := by
  have power (k : Nat) : Nat.pow 2 (k + 1) = 2 * Nat.pow 2 k := Nat.pow_succ'
  have magnitudes :
      (if 0 ≤ exponent then 2 * half * Nat.pow 2 exponent.toNat
        else 2 * half / Nat.pow 2 (-exponent).toNat) =
      if 0 ≤ exponent + 1 then half * Nat.pow 2 (exponent + 1).toNat
      else half / Nat.pow 2 (-(exponent + 1)).toNat := by
    obtain low | rfl | high := Int.lt_trichotomy exponent (-1)
    · have steps : (-exponent).toNat = (-(exponent + 1)).toNat + 1 := by omega
      rw [if_neg (by omega), if_neg (by omega), steps, power,
        Nat.mul_div_mul_left _ _ (by decide)]
    · have cancelled : 2 * half / 2 = half * 1 := by omega
      exact cancelled
    · have steps : (exponent + 1).toNat = exponent.toNat + 1 := by omega
      rw [if_pos (by omega), if_pos (by omega), steps, power]
      ac_rfl
  unfold Binary64.truncated
  rw [magnitudes]

/-- Moving factors of two does not change the integer that is cut off, so the integer belongs to the
number and not to its form. -/
theorem truncated_reduce (negative : Bool) (magnitude : Nat) (exponent : Int) :
    Binary64.truncated negative (reduce magnitude exponent).1 (reduce magnitude exponent).2 =
      Binary64.truncated negative magnitude exponent := by
  fun_induction reduce magnitude exponent with
  | case1 magnitude exponent even inductionHypothesis =>
    obtain ⟨half, double⟩ := Nat.dvd_of_mod_eq_zero even.2
    rw [inductionHypothesis, double, Nat.mul_div_cancel_left half (by decide), truncated_double]
  | case2 => rfl

/-- Signed magnitudes are equal as numbers when the magnitudes are. -/
theorem signed_mul {negative : Bool} {magnitude other : Nat} {exponent power : Int}
    (same : (magnitude * 2 ^ exponent : ℚ) = other * 2 ^ power) :
    (Numeral.signed negative magnitude * 2 ^ exponent : ℚ) =
      Numeral.signed negative other * 2 ^ power := by
  cases negative <;> simp [Numeral.signed, same]

/-- The mark of a finite quantity is this quantity in lowest terms. -/
theorem ofDyadic_cases (mantissa exponent : Int) :
    ∃ m e, ofDyadic mantissa exponent = number m e ∧ IsReduced m e ∧
      (m * 2 ^ e : ℚ) = mantissa * 2 ^ exponent := by
  unfold ofDyadic
  by_cases zero : mantissa = 0
  · exact ⟨0, 0, if_pos zero, Or.inr ⟨rfl, rfl⟩, by simp [zero]⟩
  · rw [if_neg zero]
    refine ⟨_, _, rfl, Or.inl ?_, ?_⟩
    · have odd := reduce_odd exponent (Int.natAbs_pos.mpr zero)
      unfold Numeral.signed
      split <;> omega
    · rw [signed_mul (reduce_mul mantissa.natAbs exponent), Numeral.signed_natAbs]

/-- Two finite quantities are equal when they are equal as integers of one scale. -/
theorem scaled_eq_iff (m e n f : Int) :
    Quantity.scaled m e (min e f) = Quantity.scaled n f (min e f) ↔
      (m * 2 ^ e : ℚ) = n * 2 ^ f := by
  have upper := Quantity.scaled_le_iff m e n f
  have lower := Quantity.scaled_le_iff n f m e
  rw [min_comm] at lower
  rw [le_antisymm_iff, le_antisymm_iff, upper, lower]

/-- Two equal numbers in lowest terms have one exponent: a greater one would make the mantissa of
the other even, or both mantissas zero. -/
theorem IsReduced.unique_of_le {m e n f : Int} (left : IsReduced m e) (right : IsReduced n f)
    (same : (m * 2 ^ e : ℚ) = n * 2 ^ f) (ordered : e ≤ f) : m = n ∧ e = f := by
  rw [← scaled_eq_iff, min_eq_left ordered] at same
  unfold Quantity.scaled at same
  rw [Int.sub_self, Int.toNat_zero] at same
  obtain rfl | above := ordered.eq_or_lt
  · simpa using same
  · obtain ⟨steps, some⟩ : ∃ steps, (f - e).toNat = steps + 1 := ⟨(f - e).toNat - 1, by omega⟩
    rw [some, Nat.pow_eq, Nat.pow_eq, pow_zero, pow_succ, Nat.cast_mul, ← mul_assoc] at same
    obtain odd | ⟨rfl, rfl⟩ := left
    · omega
    · obtain odd | ⟨_, rfl⟩ := right
      · have zero : n = 0 := by simpa using same
        omega
      · omega

/-- A number has one form in lowest terms. -/
theorem IsReduced.unique {m e n f : Int} (left : IsReduced m e) (right : IsReduced n f)
    (same : (m * 2 ^ e : ℚ) = n * 2 ^ f) : m = n ∧ e = f := by
  obtain ordered | ordered := le_total e f
  · exact left.unique_of_le right same ordered
  · obtain ⟨mantissas, exponents⟩ := right.unique_of_le left same.symm ordered
    exact ⟨mantissas.symm, exponents.symm⟩

/-- Two finite quantities have one mark exactly when they are equal. A mark is thus what is left of
a number when its kind and its spelling are forgotten. -/
theorem ofDyadic_eq_iff (m e n f : Int) :
    ofDyadic m e = ofDyadic n f ↔ (m * 2 ^ e : ℚ) = n * 2 ^ f := by
  obtain ⟨a, b, left, leftReduced, leftValue⟩ := ofDyadic_cases m e
  obtain ⟨c, d, right, rightReduced, rightValue⟩ := ofDyadic_cases n f
  rw [left, right, ← leftValue, ← rightValue, number.injEq]
  constructor
  · rintro ⟨rfl, rfl⟩
    rfl
  · exact leftReduced.unique rightReduced

/-- A positive magnitude has the sign that is attached to it. -/
theorem signed_lt_zero {negative : Bool} {magnitude : Nat} (positive : 0 < magnitude) :
    decide (Numeral.signed negative magnitude < 0) = negative := by
  cases negative
  · simp [Numeral.signed]
  · simpa [Numeral.signed] using positive

theorem natAbs_signed (negative : Bool) (magnitude : Nat) :
    (Numeral.signed negative magnitude).natAbs = magnitude := by
  cases negative <;> simp [Numeral.signed]

/-- The integer that is cut off from a marked number; an infinity has none. -/
def truncated? : Mark → Except NotInteger Int
  | number mantissa exponent =>
    .ok (Binary64.truncated (mantissa < 0) mantissa.natAbs exponent)
  | _ => .error .infinite

/-- What is cut off from a finite quantity is cut off from its mark. -/
theorem truncated?_ofDyadic (negative : Bool) (magnitude : Nat) (exponent : Int) :
    (ofDyadic (Numeral.signed negative magnitude) exponent).truncated? =
      .ok (Binary64.truncated negative magnitude exponent) := by
  unfold ofDyadic
  obtain rfl | positive := Nat.eq_zero_or_pos magnitude
  · have zero : Numeral.signed negative 0 = 0 := by cases negative <;> rfl
    rw [if_pos zero]
    simp [truncated?, Binary64.truncated]
  · have nonzero : Numeral.signed negative magnitude ≠ 0 := by
      rw [← Int.natAbs_pos, natAbs_signed]
      exact positive
    have odd := reduce_odd exponent positive
    rw [if_neg nonzero, natAbs_signed, signed_lt_zero positive, truncated?, natAbs_signed,
      signed_lt_zero (by omega), truncated_reduce]

end Mark

namespace Value

/-- A defined number is infinite, or it is a signed magnitude times a power of two, and so are its
quantity, its mark and what its integer is cut off from. Integers, truth values and finite
floating-point numbers are one case from here on. -/
theorem cases_of_number {value : Value} (ordered : IsOrdered .number value) :
    (∃ negative, value = real (.infinite negative)) ∨
      ∃ negative magnitude exponent,
        value.quantity? = some (.dyadic (Numeral.signed negative magnitude) exponent) ∧
          value.mark = Mark.ofDyadic (Numeral.signed negative magnitude) exponent ∧
            value.toInteger = .ok (Binary64.truncated negative magnitude exponent) := by
  have whole (number : Int) : Binary64.truncated (number < 0) number.natAbs 0 = number := by
    have read := Numeral.signed_natAbs number
    simpa [Binary64.truncated, Numeral.signed] using read
  obtain ⟨family, defined⟩ := ordered
  cases value with
  | integer number =>
    refine Or.inr ⟨(number < 0 : Bool), number.natAbs, 0, ?_⟩
    rw [Numeral.signed_natAbs, whole]
    exact ⟨rfl, rfl, rfl⟩
  | boolean truth =>
    refine Or.inr ⟨((if truth then 1 else 0 : Int) < 0 : Bool),
      (if truth then 1 else 0 : Int).natAbs, 0, ?_⟩
    rw [Numeral.signed_natAbs, whole]
    exact ⟨rfl, rfl, rfl⟩
  | real number =>
    cases number with
    | nan label => exact absurd rfl (defined label)
    | infinite negative => exact Or.inl ⟨negative, rfl⟩
    | finite negative magnitude exponent =>
      exact Or.inr ⟨negative, magnitude, exponent, rfl, rfl, rfl⟩
  | _ => simp [family?] at family

/-- An infinity has neither the mark nor the place of a finite number. -/
theorem infinite_apart (negative : Bool) {value : Value} {mantissa exponent : Int}
    (numeric : value.quantity? = some (.dyadic mantissa exponent))
    (marked : value.mark = Mark.ofDyadic mantissa exponent) :
    (real (.infinite negative)).mark ≠ value.mark ∧
      (real (.infinite negative)).standing? ≠ value.standing? := by
  obtain ⟨m, e, reduced, _⟩ := Mark.ofDyadic_cases mantissa exponent
  rw [marked, reduced, standing?_of_quantity numeric]
  cases negative <;>
    simp [mark, standing?, quantity?, Quantity.place?, (Quantity.finite_ne_bot _).symm,
      (Quantity.finite_ne_top _).symm]

/-- Two defined numbers have one mark exactly when they stand at one place. -/
theorem mark_eq_mark_iff {a b : Value} (left : IsOrdered .number a) (right : IsOrdered .number b) :
    a.mark = b.mark ↔ a.standing? = b.standing? := by
  obtain ⟨negative, rfl⟩ | ⟨_, _, _, aQuantity, aMark, _⟩ := cases_of_number left <;>
    obtain ⟨opposite, rfl⟩ | ⟨_, _, _, bQuantity, bMark, _⟩ := cases_of_number right
  · cases negative <;> cases opposite <;> simp [mark, standing?, quantity?, Quantity.place?]
  · obtain ⟨marks, places⟩ := infinite_apart negative bQuantity bMark
    exact ⟨fun equal => absurd equal marks, fun equal => absurd equal places⟩
  · obtain ⟨marks, places⟩ := infinite_apart opposite aQuantity aMark
    exact ⟨fun equal => absurd equal.symm marks, fun equal => absurd equal.symm places⟩
  · rw [aMark, bMark, Mark.ofDyadic_eq_iff, standing?_of_quantity aQuantity,
      standing?_of_quantity bQuantity]
    simp [Quantity.place?]

/-- Two defined numbers are the same exactly when neither is greater than the other. Equality and
order are computed in different ways, and this is where they agree. -/
theorem same_iff {a b : Value} (left : IsOrdered .number a) (right : IsOrdered .number b) :
    a.same b = true ↔ a.le? b = .ok true ∧ b.le? a = .ok true := by
  obtain ⟨p, aStands⟩ := exists_standing left.1 left.2
  obtain ⟨q, bStands⟩ := exists_standing right.1 right.2
  rw [same, beq_iff_eq, mark_eq_mark_iff left right, le?_iff, le?_iff, aStands, bStands]
  constructor
  · intro equal
    obtain rfl := Option.some.inj equal
    exact ⟨⟨p, p, rfl, rfl, le_rfl⟩, ⟨p, p, rfl, rfl, le_rfl⟩⟩
  · rintro ⟨⟨_, _, aPlace, bPlace, below⟩, ⟨_, _, bAgain, aAgain, above⟩⟩
    cases aPlace
    cases bPlace
    cases aAgain
    cases bAgain
    rw [le_antisymm below above]

/-- A defined number converts to the integer that is cut off from its mark. -/
theorem toInteger_eq_truncated? {value : Value} (ordered : IsOrdered .number value) :
    value.toInteger = value.mark.truncated? := by
  obtain ⟨negative, rfl⟩ | ⟨_, _, _, _, marked, converted⟩ := cases_of_number ordered
  · rfl
  · rw [marked, converted, Mark.truncated?_ofDyadic]

end Value

end SortBench
