/-!
# The shift register

A register holds sixteen bits. Its successor is the register shifted right by one, with a
feedback bit put in at the top: the sum modulo two of the bits at the four taps. Starting
from a value other than zero, the register takes every such value before it repeats.

The successor is defined for every integer, in two's complement. Only the low seventeen bits
matter: the taps and the bits that remain after the shift are all among them.
-/

namespace SortBench.Register

/-- The largest register value. -/
def top : Nat := 0xFFFF

/-- The register value that a generator starts from when no seed is given. -/
def defaultSeed : Nat := 0xF3AD

/-- The positions of the bits that the feedback bit is made of. -/
def taps : List Nat := [0, 2, 3, 5]

/-- The feedback bit of a word: the sum, without carry, of its bits at the taps. -/
def feedback (word : Nat) : Nat :=
  taps.foldl (fun bit tap => bit ^^^ word >>> tap) 0 % 2

/-- Shift a word right by one, put the feedback bit in at position fifteen, and keep sixteen
bits. -/
def shifted (word : Nat) : Nat :=
  (word >>> 1 ||| feedback word <<< 15) &&& top

/-- The part of an integer on which its successor depends. -/
def word (register : Int) : Nat :=
  (register % 0x20000).toNat

/-- The register value that follows. It is defined for every integer, and depends on its lowest bits
only. -/
def successor (register : Int) : Nat :=
  shifted (word register)

/-- A register value is its own word. -/
theorem word_natCast (register : Nat) (fits : register ≤ top) : word register = register := by
  unfold top at fits
  unfold word
  omega

/-- A successor is a register value. -/
theorem shifted_le_top (word : Nat) : shifted word ≤ top :=
  Nat.and_le_right

/-- The only register value without a set bit above the lowest position is one, besides zero;
its feedback bit is set. Hence no other register value than zero is followed by zero. -/
theorem shifted_pos (word : Nat) (positive : 0 < word) (fits : word ≤ top) :
    0 < shifted word := by
  by_cases lowest : word = 1
  · subst lowest
    decide
  · have above : word >>> 1 ≠ 0 := by
      rw [Nat.shiftRight_eq_div_pow]
      omega
    obtain ⟨position, set⟩ := Nat.exists_testBit_of_ne_zero above
    have inside : position < 16 := by
      apply Nat.lt_of_not_le
      intro beyond
      have small : word >>> 1 < 2 ^ position := by
        rw [Nat.shiftRight_eq_div_pow]
        have grows : 2 ^ 16 ≤ 2 ^ position := Nat.pow_le_pow_right (by decide) beyond
        unfold top at fits
        omega
      rw [Nat.testBit_lt_two_pow small] at set
      contradiction
    have kept : (shifted word).testBit position = true := by
      have mask : top = 2 ^ 16 - 1 := rfl
      simp only [shifted, mask, Nat.testBit_and, Nat.testBit_or, set, Bool.true_or,
        Nat.testBit_two_pow_sub_one, inside, decide_true, Bool.and_true]
    apply Nat.pos_of_ne_zero
    intro zero
    simp [zero] at kept

end SortBench.Register
