import Mathlib.Logic.Function.Iterate
import Mathlib.Tactic.Ring
import SortBench.Register.Basic

/-!
# Many steps at once

The step of a register is linear: the successor of the sum of two words, bit by bit and without
carry, is the sum of their successors. So a number of steps is known from where it takes the
sixteen single bits, and twice that number from applying it once more to these sixteen images.
Sixteen doublings reach as many steps as there are words, which nobody has to take one by one.

Linearity needs words of sixteen bits. In a longer word the bit that is shifted down to position
fifteen would meet the feedback bit there.
-/

namespace SortBench.Register

/-- The feedback bit is a bit. -/
theorem feedback_lt_two (word : Nat) : feedback word < 2 :=
  Nat.mod_lt _ (by decide)

/-- The feedback bit of a sum is the sum of the feedback bits. -/
theorem feedback_xor (a b : Nat) : feedback (a ^^^ b) = feedback a ^^^ feedback b := by
  have modulus : 2 = 2 ^ 1 := rfl
  unfold feedback taps
  simp only [List.foldl, Nat.shiftRight_xor_distrib]
  rw [modulus, ← Nat.xor_mod_two_pow]
  congr 1
  ac_rfl

/-- In a register value the feedback bit is put in where the shift has left no bit. So the step is a
sum of two linear maps, and not an addition with carries. -/
theorem shifted_eq_xor (word : Nat) (fits : word ≤ top) :
    shifted word = word >>> 1 ^^^ feedback word <<< 15 := by
  have mask : top = 2 ^ 16 - 1 := rfl
  have beyond (position : Nat) (above : 16 ≤ position) : word.testBit position = false := by
    apply Nat.testBit_lt_two_pow
    calc
      word < 2 ^ 16 := Nat.lt_succ_of_le fits
      _ ≤ 2 ^ position := Nat.pow_le_pow_right (by decide) above
  apply Nat.eq_of_testBit_eq
  intro position
  simp only [shifted, mask, Nat.testBit_and, Nat.testBit_or, Nat.testBit_xor,
    Nat.testBit_shiftRight, Nat.testBit_shiftLeft, Nat.testBit_two_pow_sub_one]
  obtain low | rfl | high := Nat.lt_trichotomy position 15
  · simp [Nat.not_le.mpr low, Nat.lt_trans low (by decide : 15 < 16)]
  · simp [beyond 16 (Nat.le_refl 16)]
  · have noFeedback : (feedback word).testBit (position - 15) = false := by
      apply Nat.testBit_lt_two_pow
      calc
        feedback word < 2 ^ 1 := feedback_lt_two word
        _ ≤ 2 ^ (position - 15) := Nat.pow_le_pow_right (by decide) (by omega)
    simp [beyond (1 + position) (by omega), noFeedback]

/-- The sum of two register values is a register value. -/
theorem xor_le_top {a b : Nat} (first : a ≤ top) (second : b ≤ top) : a ^^^ b ≤ top := by
  have below : a ^^^ b < 2 ^ 16 :=
    Nat.xor_lt_two_pow (Nat.lt_succ_of_le first) (Nat.lt_succ_of_le second)
  exact Nat.le_of_lt_succ below

/-- Sums of two sums can be taken crosswise. -/
theorem xor_xor_xor_comm (a b c d : Nat) : (a ^^^ b) ^^^ (c ^^^ d) = (a ^^^ c) ^^^ (b ^^^ d) := by
  rw [Nat.xor_assoc, Nat.xor_assoc, ← Nat.xor_assoc b, Nat.xor_comm b, Nat.xor_assoc]

/-- The step of a register is linear. Everything else in this file comes from this: linear maps can
be composed by their columns, at the cost of one doubling instead of twice as many steps. -/
theorem shifted_xor {a b : Nat} (first : a ≤ top) (second : b ≤ top) :
    shifted (a ^^^ b) = shifted a ^^^ shifted b := by
  rw [shifted_eq_xor _ (xor_le_top first second), shifted_eq_xor a first, shifted_eq_xor b second,
    feedback_xor, Nat.shiftRight_xor_distrib, Nat.shiftLeft_xor_distrib, xor_xor_xor_comm]

/-- After any number of steps the register holds a register value. -/
theorem iterate_le_top {word : Nat} (fits : word ≤ top) (count : Nat) :
    shifted^[count] word ≤ top := by
  cases count with
  | zero => exact fits
  | succ count =>
    rw [Function.iterate_succ_apply']
    exact shifted_le_top _

/-- What a bit of a word adds to its image: the image of the bit, or nothing. -/
def chosen (column word : Nat) : Nat :=
  if word % 2 = 1 then column else 0

/-- The image of a word under the linear map that takes the single bits to the columns, the lowest
bit first. -/
def image : List Nat → Nat → Nat
  | [], _ => 0
  | column :: rest, word => chosen column word ^^^ image rest (word / 2)

theorem chosen_xor (column a b : Nat) :
    chosen column (a ^^^ b) = chosen column a ^^^ chosen column b := by
  have parity : (a ^^^ b) % 2 = a % 2 ^^^ b % 2 := Nat.xor_mod_two_pow (n := 1)
  unfold chosen
  rw [parity]
  rcases Nat.mod_two_eq_zero_or_one a with first | first <;>
    rcases Nat.mod_two_eq_zero_or_one b with second | second <;> simp [first, second]

/-- Maps by columns are linear. -/
theorem image_xor (columns : List Nat) (a b : Nat) :
    image columns (a ^^^ b) = image columns a ^^^ image columns b := by
  induction columns generalizing a b with
  | nil => simp [image]
  | cons column rest inductionHypothesis =>
    have half : (a ^^^ b) / 2 = a / 2 ^^^ b / 2 := Nat.xor_div_two
    rw [image, image, image, half, inductionHypothesis, chosen_xor, xor_xor_xor_comm]

theorem image_zero (columns : List Nat) : image columns 0 = 0 := by
  have twice := image_xor columns 0 0
  simpa using twice

/-- One map after another takes the single bits to the images of the columns. The composition is
computed column by column, without a step of the register. -/
theorem image_map_image (columns further : List Nat) (word : Nat) :
    image (columns.map (image further)) word = image further (image columns word) := by
  induction columns generalizing word with
  | nil => simp [image, image_zero]
  | cons column rest inductionHypothesis =>
    have lowest : chosen (image further column) word = image further (chosen column word) := by
      unfold chosen
      split
      · rfl
      · rw [image_zero]
    rw [List.map_cons, image, image, image_xor, inductionHypothesis, lowest]

/-- A word is its lowest bit and the others. -/
theorem word_eq_xor (word : Nat) : word = word % 2 ^^^ (word / 2) <<< 1 := by
  apply Nat.eq_of_testBit_eq
  intro position
  cases position with
  | zero =>
    have upper : ((word / 2) <<< 1).testBit 0 = false := by simp
    rw [Nat.testBit_xor, upper, Bool.xor_false, Nat.testBit_zero, Nat.testBit_zero, Nat.mod_mod]
  | succ position =>
    have lowest : word % 2 / 2 = 0 := by omega
    simp [Nat.testBit_succ, Nat.xor_div_two, lowest, Nat.shiftLeft_eq]

/-- A short word that is shifted up a little is a register value. -/
theorem shiftLeft_le_top {word start : Nat} (width : Nat) (inside : start + width ≤ 16)
    (fits : word < 2 ^ width) : word <<< start ≤ top := by
  have below : word <<< start < 2 ^ 16 := by
    rw [Nat.shiftLeft_eq]
    calc
      word * 2 ^ start < 2 ^ width * 2 ^ start :=
        Nat.mul_lt_mul_of_pos_right fits (Nat.two_pow_pos start)
      _ = 2 ^ (width + start) := (pow_add 2 width start).symm
      _ ≤ 2 ^ 16 := Nat.pow_le_pow_right (by decide) (by omega)
  exact Nat.le_of_lt_succ below

/-- A step is the map whose columns are the successors of the single bits. The induction takes one
bit after another from the lower end of a word that stands so many positions further up. -/
theorem image_successors (start width word : Nat) (inside : start + width ≤ 16)
    (fits : word < 2 ^ width) :
    image ((List.range' start width).map fun bit => shifted (2 ^ bit)) word =
      shifted (word <<< start) := by
  induction width generalizing start word with
  | zero =>
    obtain rfl : word = 0 := by simpa using fits
    rw [Nat.zero_shiftLeft]
    rfl
  | succ width inductionHypothesis =>
    have others : word / 2 < 2 ^ width := by omega
    have split : word <<< start = (word % 2) <<< start ^^^ (word / 2) <<< (start + 1) := by
      conv_lhs => rw [word_eq_xor word, Nat.shiftLeft_xor_distrib, ← Nat.shiftLeft_add,
        Nat.add_comm 1]
    have lowest : chosen (shifted (2 ^ start)) word = shifted ((word % 2) <<< start) := by
      unfold chosen
      rcases Nat.mod_two_eq_zero_or_one word with even | odd
      · rw [even, Nat.zero_shiftLeft, if_neg (by decide)]
        rfl
      · rw [odd, Nat.one_shiftLeft, if_pos rfl]
    have lowestFits : (word % 2) <<< start ≤ top :=
      shiftLeft_le_top 1 (by omega) (Nat.mod_lt _ (by decide))
    rw [List.range'_succ, List.map_cons, image, inductionHypothesis _ _ (by omega) others, split,
      shifted_xor lowestFits (shiftLeft_le_top width (by omega) others), lowest]

/-- The columns of so many doublings of a step. -/
def doubled : Nat → List Nat
  | 0 => (List.range' 0 16).map fun bit => shifted (2 ^ bit)
  | k + 1 => (doubled k).map (image (doubled k))

/-- The columns of `k` doublings map a register value to where `2 ^ k` steps take it. -/
theorem image_doubled (k : Nat) {word : Nat} (fits : word ≤ top) :
    image (doubled k) word = shifted^[2 ^ k] word := by
  induction k generalizing word with
  | zero => exact image_successors 0 16 word (Nat.le_refl 16) (Nat.lt_succ_of_le fits)
  | succ k inductionHypothesis =>
    rw [doubled, image_map_image, inductionHypothesis fits,
      inductionHypothesis (iterate_le_top fits _), ← Function.iterate_add_apply, pow_succ, mul_two]

/-- Go on by as many steps as a binary number with ones at the given places says. -/
def leap (places : List Nat) (word : Nat) : Nat :=
  places.foldl (fun reached place => image (doubled place) reached) word

/-- A leap ends where its steps end. Tens of thousands of steps are computed in sixteen leaps at
most, which is what puts the order of the register within reach of evaluation. -/
theorem leap_eq_iterate (places : List Nat) {word : Nat} (fits : word ≤ top) :
    leap places word = shifted^[(places.map (2 ^ ·)).sum] word := by
  unfold leap
  induction places generalizing word with
  | nil => rfl
  | cons place rest inductionHypothesis =>
    rw [List.foldl_cons, image_doubled place fits, inductionHypothesis (iterate_le_top fits _),
      ← Function.iterate_add_apply, List.map_cons, List.sum_cons, Nat.add_comm]

end SortBench.Register
