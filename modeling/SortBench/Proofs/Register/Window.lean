import Mathlib.Data.List.Basic
import SortBench.Proofs.Register.Draws
import SortBench.Proofs.Register.Leaps

/-!
# The register as a window

The bits of the registers, one step after another, overlap: all but the topmost bit of a register
are the upper bits of the one before it. So they are a single sequence of bits, of which the
register is a window that moves along by one place with each step. What comes into the window at the
top is a sum of four bits that are in it, so the sequence obeys a linear recurrence, and the sixteen
bits of the first register determine it.

The sequence need not be given: it is that of the lowest bits of the registers.
-/

namespace SortBench

namespace Register

/-- A sequence of bits extends a register value: it begins with the bits of the value, the lowest
first, and every later bit is the sum of four bits in front of it. -/
structure Extends (register : Nat) (bits : Nat → Bool) : Prop where
  /-- The first sixteen bits are those of the register. -/
  first : ∀ i < 16, bits i = register.testBit i
  /-- The others are sums. -/
  recurs : ∀ k, bits (k + 16) = (bits k ^^ bits (k + 2) ^^ bits (k + 3) ^^ bits (k + 5))

/-- The register value that shows at a place of a sequence of bits. -/
def window (bits : Nat → Bool) (place : Nat) : Nat :=
  Nat.ofBits fun i : Fin 16 => bits (place + i)

/-- A bit of the successor that is not the topmost is the next higher bit. -/
theorem testBit_shifted_of_lt (word : Nat) {position : Nat} (below : position < 15) :
    (shifted word).testBit position = word.testBit (position + 1) := by
  have mask : top = 2 ^ 16 - 1 := rfl
  have kept : position < 16 := Nat.lt_succ_of_lt below
  simp only [shifted, mask, Nat.testBit_and, Nat.testBit_or, Nat.testBit_shiftRight,
    Nat.testBit_shiftLeft, Nat.testBit_two_pow_sub_one]
  simp [kept, Nat.not_le.mpr below, Nat.add_comm]

/-- The feedback bit is the sum of the bits at the taps. -/
theorem testBit_feedback (word : Nat) :
    (feedback word).testBit 0 =
      (word.testBit 0 ^^ word.testBit 2 ^^ word.testBit 3 ^^ word.testBit 5) := by
  have modulus : 2 = 2 ^ 1 := rfl
  unfold feedback taps
  rw [modulus, Nat.testBit_mod_two_pow]
  simp only [List.foldl, Nat.zero_xor, Nat.testBit_xor, Nat.testBit_shiftRight, Nat.add_zero,
    Nat.zero_lt_one, decide_true, Bool.true_and, Bool.xor_assoc]

/-- The topmost bit of the successor is the feedback bit. With the bits below it the successor is
known bit by bit. -/
theorem testBit_shifted_top {word : Nat} (fits : word ≤ top) :
    (shifted word).testBit 15 =
      (word.testBit 0 ^^ word.testBit 2 ^^ word.testBit 3 ^^ word.testBit 5) := by
  have noBit : word.testBit 16 = false := Nat.testBit_lt_two_pow (Nat.lt_succ_of_le fits)
  rw [shifted_eq_xor word fits, Nat.testBit_xor, Nat.testBit_shiftRight, Nat.testBit_shiftLeft,
    noBit, ← testBit_feedback]
  simp

/-- A register value that is known bit by bit is the number with these bits. -/
theorem eq_ofBits {word : Nat} {bits : Fin 16 → Bool} (fits : word ≤ top)
    (same : ∀ i : Fin 16, word.testBit i = bits i) : word = Nat.ofBits bits := by
  apply Nat.eq_of_testBit_eq
  intro position
  rw [Nat.testBit_ofBits]
  split
  case isTrue inside => exact same ⟨position, inside⟩
  case isFalse outside =>
    apply Nat.testBit_lt_two_pow
    calc
      word < 2 ^ 16 := Nat.lt_succ_of_le fits
      _ ≤ 2 ^ position := Nat.pow_le_pow_right (by decide) (Nat.not_lt.mp outside)

namespace Extends

variable {register : Nat} {bits : Nat → Bool}

/-- Without its first bit, a sequence extends the successor. A step of the register is a move of the
window by one place. -/
theorem tail (extended : Extends register bits) (fits : register ≤ top) :
    Extends (shifted register) fun k => bits (k + 1) := by
  constructor
  case first =>
    intro i inside
    obtain below | rfl : i < 15 ∨ i = 15 := by omega
    · rw [testBit_shifted_of_lt register below, extended.first (i + 1) (by omega)]
    · rw [testBit_shifted_top fits, extended.recurs 0, extended.first 0 (by decide),
        extended.first _ (by decide), extended.first _ (by decide), extended.first _ (by decide)]
  case recurs =>
    intro k
    have shift := extended.recurs (k + 1)
    simp only [Nat.add_right_comm k 1] at shift
    exact shift

/-- After so many steps the register is the window at the place with this number. -/
theorem iterate_shifted (extended : Extends register bits) (fits : register ≤ top)
    (count : Nat) : shifted^[count] register = window bits count := by
  induction count generalizing register bits with
  | zero =>
    refine eq_ofBits fits fun i => ?_
    rw [Function.iterate_zero_apply, Nat.zero_add, extended.first i i.isLt]
  | succ count inductionHypothesis =>
    rw [Function.iterate_succ_apply,
      inductionHypothesis (extended.tail fits) (shifted_le_top register)]
    simp only [window, Nat.add_right_comm count 1]

/-- A register value is extended by one sequence only. Its first sixteen bits are given and every
other is determined by those in front of it. -/
theorem unique {other : Nat → Bool} (extended : Extends register bits)
    (again : Extends register other) : other = bits := by
  funext k
  induction k using Nat.strong_induction_on with
  | _ k inductionHypothesis =>
    by_cases first : k < 16
    · rw [again.first k first, extended.first k first]
    · obtain ⟨k, rfl⟩ := Nat.exists_eq_add_of_le' (Nat.not_lt.mp first)
      rw [again.recurs, extended.recurs, inductionHypothesis k (by omega),
        inductionHypothesis (k + 2) (by omega), inductionHypothesis (k + 3) (by omega),
        inductionHypothesis (k + 5) (by omega)]

end Extends

/-- The lowest bits of the registers, one step after another. -/
def lowestBits (register k : Nat) : Bool :=
  (shifted^[k] register).testBit 0

/-- A bit moves down to the lowest place, one place with each step, so every bit that is ever in the
register comes to be read there. -/
theorem testBit_iterate_shifted (register k : Nat) {position : Nat} (inside : position < 16) :
    (shifted^[k] register).testBit position = lowestBits register (k + position) := by
  induction position generalizing k with
  | zero => rfl
  | succ position inductionHypothesis =>
    rw [← testBit_shifted_of_lt _ (Nat.succ_lt_succ_iff.mp inside),
      ← Function.iterate_succ_apply' shifted k, inductionHypothesis _ (Nat.lt_of_succ_lt inside),
      Nat.succ_add_eq_add_succ]

/-- The lowest bits extend the register. -/
theorem extends_lowestBits {register : Nat} (fits : register ≤ top) :
    Extends register (lowestBits register) := by
  constructor
  case first =>
    intro i inside
    rw [← Nat.zero_add i, ← testBit_iterate_shifted register 0 inside]
    simp
  case recurs =>
    intro k
    have topmost := testBit_shifted_top (iterate_le_top fits k)
    rw [← Function.iterate_succ_apply' shifted k, testBit_iterate_shifted _ _ (by decide),
      testBit_iterate_shifted _ _ (by decide), testBit_iterate_shifted _ _ (by decide),
      testBit_iterate_shifted _ _ (by decide), testBit_iterate_shifted _ _ (by decide)] at topmost
    exact topmost

/-- No other sequence does. -/
theorem extends_iff {register : Nat} (fits : register ≤ top) (bits : Nat → Bool) :
    Extends register bits ↔ bits = lowestBits register := by
  constructor
  · exact (extends_lowestBits fits).unique
  · rintro rfl
    exact extends_lowestBits fits

theorem iterate_step {register : Nat} (fits : register ≤ top) (count : Nat) :
    step^[count] register = (shifted^[count] register : Nat) := by
  induction count generalizing register with
  | zero => rfl
  | succ count inductionHypothesis =>
    have stepped : step register = (shifted register : Nat) := by
      rw [step, successor, word_natCast register fits]
    rw [Function.iterate_succ_apply, Function.iterate_succ_apply, stepped,
      inductionHypothesis (shifted_le_top register)]

/-- Any number of steps is linear. -/
theorem iterate_shifted_xor {a b : Nat} (first : a ≤ top) (second : b ≤ top) (count : Nat) :
    shifted^[count] (a ^^^ b) = shifted^[count] a ^^^ shifted^[count] b := by
  induction count generalizing a b with
  | zero => rfl
  | succ count inductionHypothesis =>
    rw [Function.iterate_succ_apply, Function.iterate_succ_apply, Function.iterate_succ_apply,
      shifted_xor first second, inductionHypothesis (shifted_le_top a) (shifted_le_top b)]

/-- Sixteen bits are a register value, zero among them. -/
theorem toNat_le_top (seed : BitVec 16) : seed.toNat ≤ top :=
  Nat.le_of_lt_succ seed.isLt

/-- Whatever sixteen bits the register holds, one sequence extends them, and after any number of
steps the register is the window at that place of it; the values that a generator draws are the
windows from the next place on. Hence steps from a sum, bit by bit and without carry, lead to the
sum of where they lead from its two parts.

Proof: the lowest bits of the registers extend the register, and a step moves the window by one
place. A step is linear, and so is any number of them. -/
theorem slides_along :
    (∀ seed : BitVec 16, ∃ bits, (∀ other, Extends seed.toNat other ↔ other = bits) ∧
        ∀ count, step^[count] seed.toNat = (window bits count : Nat)) ∧
      (∀ generator : Generator, ∃ bits,
        (∀ other, Extends generator.register other ↔ other = bits) ∧
          ∀ count, (generator.draw count).1 =
            (List.range count).map fun k => window bits (k + 1)) ∧
      ∀ (a b : BitVec 16) (count : Nat), step^[count] (a ^^^ b).toNat =
        ((step^[count] a.toNat).toNat ^^^ (step^[count] b.toNat).toNat : Nat) := by
  refine ⟨fun seed => ⟨_, extends_iff (toNat_le_top seed), fun count => ?_⟩,
    fun generator => ⟨_, extends_iff generator.fits, fun count => ?_⟩, fun a b count => ?_⟩
  · rw [iterate_step (toNat_le_top seed),
      (extends_lowestBits (toNat_le_top seed)).iterate_shifted (toNat_le_top seed)]
  · have cast : Function.Injective (List.map (Nat.cast : Nat → Int)) :=
      List.map_injective_iff.mpr Nat.cast_injective
    apply cast
    rw [generator.draw_eq_successors, successors, List.map_map]
    refine List.map_congr_left fun k _ => ?_
    rw [iterate_step generator.fits,
      (extends_lowestBits generator.fits).iterate_shifted generator.fits]
    rfl
  · rw [iterate_step (toNat_le_top a), iterate_step (toNat_le_top b),
      iterate_step (toNat_le_top _), BitVec.toNat_xor,
      iterate_shifted_xor (toNat_le_top a) (toNat_le_top b), Int.toNat_natCast,
      Int.toNat_natCast]

end Register

end SortBench
