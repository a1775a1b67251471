import Mathlib.Algebra.Order.Field.Power
import Mathlib.Data.Rat.Cast.Order
import Mathlib.Order.WithBot
import SortBench.Value.Quantity

/-!
# Quantities as places on the number line

A quantity that is defined has a place on the line of the rational numbers with its two ends.
The comparison of quantities, which scales both sides to one exponent and compares integers,
is the order of their places. All laws of an order are taken from the line.
-/

namespace SortBench.Quantity

/-- The place of a rational number. -/
def finite (number : ℚ) : WithBot (WithTop ℚ) :=
  ((number : WithTop ℚ) : WithBot (WithTop ℚ))

@[simp]
theorem finite_le_finite (x y : ℚ) : finite x ≤ finite y ↔ x ≤ y :=
  WithBot.coe_le_coe.trans WithTop.coe_le_coe

/-- Rational numbers have places of their own. -/
@[simp]
theorem finite_eq_finite (x y : ℚ) : finite x = finite y ↔ x = y := by
  rw [le_antisymm_iff, finite_le_finite, finite_le_finite, ← le_antisymm_iff]

/-- The place of a rational number is not the lower end of the line. -/
@[simp]
theorem finite_ne_bot (x : ℚ) : finite x ≠ ⊥ :=
  WithBot.coe_ne_bot

@[simp]
theorem finite_ne_top (x : ℚ) : finite x ≠ ⊤ :=
  fun same => WithTop.coe_ne_top (WithBot.coe_injective same)

/-- The place of a quantity that is defined. The line has two ends, at which the infinities
stand. -/
def place? : Quantity → Option (WithBot (WithTop ℚ))
  | undefined => none
  | bottom => some ⊥
  | top => some ⊤
  | dyadic mantissa exponent => some (finite (mantissa * 2 ^ exponent))

/-- Scaling to a lower exponent does not change the number. -/
theorem scaled_mul (mantissa exponent floor : Int) (low : floor ≤ exponent) :
    (scaled mantissa exponent floor : ℚ) * 2 ^ floor = mantissa * 2 ^ exponent := by
  have steps : exponent = ((exponent - floor).toNat : Int) + floor := by omega
  have power : (2 : ℚ) ^ exponent = 2 ^ (exponent - floor).toNat * 2 ^ floor := by
    conv_lhs => rw [steps, zpow_add₀ (by norm_num), zpow_natCast]
  rw [power, ← mul_assoc]
  congr 1
  unfold scaled
  push_cast [Nat.pow_eq]
  rfl

/-- Scaled to one exponent, two numbers compare as they are. Only integers are compared, so nothing
is lost to rounding. -/
theorem scaled_le_iff (m e n f : Int) :
    scaled m e (min e f) ≤ scaled n f (min e f) ↔ (m * 2 ^ e : ℚ) ≤ n * 2 ^ f := by
  have positive : (0 : ℚ) < 2 ^ min e f := zpow_pos (by norm_num) _
  rw [← scaled_mul m e (min e f) (min_le_left e f), ← scaled_mul n f (min e f) (min_le_right e f),
    mul_le_mul_iff_left₀ positive, Int.cast_le]

/-- Two finite quantities compare by their scaled integers, also where no scaling is needed. -/
theorem compare?_dyadic (m e n f : Int) :
    (dyadic m e).compare? (dyadic n f) =
      some (compare (scaled m e (min e f)) (scaled n f (min e f))) := by
  have unscaled (mantissa exponent : Int) : scaled mantissa exponent exponent = mantissa := by
    simp [scaled]
  simp only [compare?]
  split
  case isTrue same =>
    subst same
    rw [min_self, unscaled, unscaled]
  case isFalse => rfl

/-- A quantity is not greater than another when both are defined and its place is not. -/
theorem le_iff (a b : Quantity) :
    a.le b = true ↔ ∃ p q, a.place? = some p ∧ b.place? = some q ∧ p ≤ q := by
  cases a <;> cases b
  case dyadic.dyadic m e n f =>
    simp only [le, compare?_dyadic, bne_iff_ne, compare_le_iff_le, scaled_le_iff, place?]
    simp
  all_goals simp [le, compare?, place?]

/-- A quantity is greater than another when both are defined and its place is. -/
theorem gt_iff (a b : Quantity) :
    a.gt b = true ↔ ∃ p q, a.place? = some p ∧ b.place? = some q ∧ q < p := by
  cases a <;> cases b
  case dyadic.dyadic m e n f =>
    have flipped := scaled_le_iff m e n f
    simp only [gt, compare?_dyadic, beq_iff_eq, Option.some.injEq, compare_gt_iff_gt, place?]
    rw [← not_le, flipped]
    simp [← not_le]
  all_goals simp [gt, compare?, place?, bot_lt_iff_ne_bot, lt_top_iff_ne_top]

/-- Every quantity but the undefined one has a place. -/
theorem exists_place (a : Quantity) (defined : a ≠ undefined) : ∃ p, a.place? = some p := by
  cases a with
  | undefined => contradiction
  | bottom => exact ⟨_, rfl⟩
  | top => exact ⟨_, rfl⟩
  | dyadic m e => exact ⟨_, rfl⟩

end SortBench.Quantity
