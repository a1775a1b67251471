import Mathlib.Data.List.Forall2
import Mathlib.Data.List.Induction
import Mathlib.Tactic.IntervalCases
import Mathlib.Tactic.Ring
import SortBench.Numeral.Literal
import SortBench.Numeral.Written

/-!
# Digits and what they spell

A run of characters spells a number in a base when each of them is a digit and the digits, the most
significant first, have that number as their value. The digits that are written of a number spell
it, zeros in front change nothing, and a number is below the power of the base that has as many
digits. Reading a run gives what it spells.
-/

namespace SortBench.Numeral

/-- Characters spell a number: they are the digits of it, perhaps with zeros in front. There is at
most one number that they spell, but a number has many spellings. -/
def Spells (base : Nat) (characters : List Char) (number : Nat) : Prop :=
  ∃ digits, List.Forall₂ (fun c digit => digit? base c = some digit) characters digits ∧
    ofDigits base digits = number

/-- The character that is written for a digit is that digit, in every base up to sixteen. -/
theorem digit?_digitChar {base digit : Nat} (small : base ≤ 16) (below : digit < base) :
    digit? base digit.digitChar = some digit := by
  have bound : digit < 16 := Nat.lt_of_lt_of_le below small
  interval_cases digit <;> simp [digit?, Nat.digitChar, below]

/-- A digit is below its base. -/
theorem lt_of_digit? {base digit : Nat} {c : Char} (read : digit? base c = some digit) :
    digit < base := by
  unfold digit? at read
  dsimp only at read
  generalize (if '0' ≤ c && c ≤ '9' then c.toNat - 0x30 else _) = value at read
  by_cases below : value < base
  · rw [if_pos below] at read
    cases read
    exact below
  · rw [if_neg below] at read
    cases read

/-- An underscore is no digit, in any base. It can only stand between two. -/
theorem digit?_underscore (base : Nat) : digit? base '_' = none := by
  simp [digit?]

/-- One more digit at the end. Digits are read from the front, so this is the step of every
recursion on a run. -/
theorem ofDigits_concat (base digit : Nat) (digits : List Nat) :
    ofDigits base (digits ++ [digit]) = ofDigits base digits * base + digit := by
  simp [ofDigits]

/-- A zero in front does not change the value. -/
theorem ofDigits_zero_cons (base : Nat) (digits : List Nat) :
    ofDigits base (0 :: digits) = ofDigits base digits := by
  simp [ofDigits]

/-- The value of digits is below the power of the base that has as many digits. A limit on digits is
therefore a bound on values. -/
theorem ofDigits_lt_pow {base : Nat} {digits : List Nat}
    (bounded : ∀ digit ∈ digits, digit < base) : ofDigits base digits < base ^ digits.length := by
  induction digits using List.reverseRecOn with
  | nil => simp [ofDigits]
  | append_singleton digits last inductionHypothesis =>
    have lastBelow : last < base := bounded last (by simp)
    have frontBelow : ofDigits base digits < base ^ digits.length :=
      inductionHypothesis fun digit member => bounded digit (by simp [member])
    rw [ofDigits_concat, List.length_append, List.length_singleton, pow_succ]
    calc
      ofDigits base digits * base + last < ofDigits base digits * base + base := by omega
      _ = (ofDigits base digits + 1) * base := by ring
      _ ≤ base ^ digits.length * base := Nat.mul_le_mul_right base frontBelow

namespace Spells

variable {base number : Nat} {characters : List Char}

/-- One more digit at the end of a run. -/
theorem concat {c : Char} {digit : Nat} (run : Spells base characters number)
    (read : digit? base c = some digit) :
    Spells base (characters ++ [c]) (number * base + digit) := by
  obtain ⟨digits, paired, rfl⟩ := run
  refine ⟨digits ++ [digit], ?_, ofDigits_concat base digit digits⟩
  exact List.rel_append paired (.cons read .nil)

/-- Zeros in front of a run, by which numbers are filled up to a width. -/
theorem zeros (positive : 0 < base) (run : Spells base characters number) (count : Nat) :
    Spells base (List.replicate count '0' ++ characters) number := by
  induction count with
  | zero => exact run
  | succ count inductionHypothesis =>
    obtain ⟨digits, paired, rfl⟩ := inductionHypothesis
    have zero : digit? base '0' = some 0 := by simp [digit?, positive]
    exact ⟨0 :: digits, .cons zero paired, ofDigits_zero_cons base digits⟩

theorem exists_digit? (run : Spells base characters number) :
    ∀ c ∈ characters, ∃ digit, digit? base c = some digit := by
  obtain ⟨digits, paired, _⟩ := run
  intro c member
  obtain ⟨position, inside, rfl⟩ := List.mem_iff_getElem.mp member
  exact ⟨_, paired.get inside (paired.length_eq ▸ inside)⟩

/-- A run spells one number only. -/
theorem unique {other : Nat} (run : Spells base characters number)
    (again : Spells base characters other) : number = other := by
  obtain ⟨digits, paired, rfl⟩ := run
  obtain ⟨others, pairedAgain, rfl⟩ := again
  have functional : Relator.RightUnique fun c digit => digit? base c = some digit := by
    intro c digit twin read readAgain
    exact Option.some.inj (read.symm.trans readAgain)
  rw [List.right_unique_forall₂' functional paired pairedAgain]

end Spells

/-- The digits of a number spell it. This is where the library that writes digits and the reader of
digits meet; everything else about written numbers follows from it. -/
theorem spells_toDigits {base : Nat} (several : 1 < base) (small : base ≤ 16) (number : Nat) :
    Spells base (Nat.toDigits base number) number := by
  induction number using Nat.strong_induction_on with
  | _ number inductionHypothesis =>
    rw [Nat.toDigits_eq_if several]
    split
    case isTrue below =>
      refine ⟨[number], .cons (digit?_digitChar small below) .nil, ?_⟩
      simp [ofDigits]
    case isFalse above =>
      have less : number / base < number := Nat.div_lt_self (by omega) several
      have last : number % base < base := Nat.mod_lt _ (by omega)
      have run := (inductionHypothesis (number / base) less).concat (digit?_digitChar small last)
      rwa [Nat.div_add_mod'] at run

/-- The decimal digits of a number spell it. -/
theorem spells_decimalDigits (number : Nat) : Spells 10 (decimalDigits number) number :=
  spells_toDigits (by decide) (by decide) number

/-- Hexadecimal digits spell their number, whatever the least width. -/
theorem spells_hexDigits (width number : Nat) :
    Spells 16 (Text.hexDigits width number) number :=
  (spells_toDigits (by decide) (by decide) number).zeros (by decide) _

theorem isDigit_of_digit? {c : Char} {digit : Nat} (read : digit? 10 c = some digit) :
    c.isDigit = true := by
  unfold digit? at read
  unfold Char.isDigit
  split at read
  case isTrue between =>
    simpa [Char.le_def, ← UInt32.le_iff_toNat_le] using between
  case isFalse =>
    exfalso
    split at read <;> grind

/-- The digits of a number are decimal digits. -/
theorem isDigit_decimalDigits (number : Nat) : ∀ c ∈ decimalDigits number, c.isDigit = true := by
  intro c member
  obtain ⟨digit, read⟩ := (spells_decimalDigits number).exists_digit? c member
  exact isDigit_of_digit? read

/-- Only zero is written with a zero in front. So the number of digits of a positive number is no
larger than it has to be. -/
theorem decimalDigits_head? {number : Nat} (positive : 0 < number) :
    (decimalDigits number).head? ≠ some '0' := by
  induction number using Nat.strong_induction_on with
  | _ number inductionHypothesis =>
    unfold decimalDigits at inductionHypothesis ⊢
    rw [Nat.toDigits_eq_if (by decide)]
    split
    case isTrue below =>
      have digit : ∀ d < 10, 0 < d → Nat.digitChar d ≠ '0' := by decide
      simpa using digit number below positive
    case isFalse above =>
      have front := inductionHypothesis (number / 10) (by omega) (by omega)
      rwa [List.head?_append_of_ne_nil _ Nat.toDigits_ne_nil]

/-- A run of digits is continued up to its end, with the digits that were read before in reverse. -/
theorem continueRun_of_digits {base : Nat} {characters : List Char} {digits : List Nat}
    (paired : List.Forall₂ (fun c digit => digit? base c = some digit) characters digits)
    (before : List Nat) :
    continueRun base before characters = some (before.reverse ++ digits, []) := by
  induction paired generalizing before with
  | nil => simp [continueRun]
  | @cons c digit rest others read _ inductionHypothesis =>
    have noUnderscore : c ≠ '_' := by
      rintro rfl
      rw [digit?_underscore] at read
      cases read
    rw [continueRun]
    · rw [read]
      simp [inductionHypothesis]
    · intro _ _ same
      exact absurd same noUnderscore

/-- The digits of a run that is continued are below its base. -/
theorem lt_of_continueRun {base : Nat} {before digits : List Nat} {characters rest : List Char}
    (bounded : ∀ digit ∈ before, digit < base)
    (continued : continueRun base before characters = some (digits, rest)) :
    ∀ digit ∈ digits, digit < base := by
  fun_induction continueRun base before characters with
  | case1 before =>
    cases continued
    simpa using bounded
  | case2 before c rest digit read inductionHypothesis =>
    exact inductionHypothesis (List.forall_mem_cons.mpr ⟨lt_of_digit? read, bounded⟩) continued
  | case3 => cases continued
  | case4 before c rest _ digit read inductionHypothesis =>
    exact inductionHypothesis (List.forall_mem_cons.mpr ⟨lt_of_digit? read, bounded⟩) continued
  | case5 => cases continued
  | case6 before =>
    cases continued
    simpa using bounded

/-- A decimal run that is read has no more digits than it may have, so its value is bounded. Zeros
in front count towards the limit as well, which can only make the value smaller. -/
theorem lt_of_readDigits {characters : List Char} {number : Nat}
    (read : readDigits 10 characters = .ok number) : number < 10 ^ mostDigits := by
  unfold readDigits at read
  split at read
  case h_1 => cases read
  case h_2 digits rest run =>
    have bounded : ∀ digit ∈ digits, digit < 10 := by
      unfold readRun at run
      split at run
      · cases run
      · split at run
        case h_1 first found =>
          exact lt_of_continueRun (List.forall_mem_singleton.mpr (lt_of_digit? found)) run
        case h_2 => cases run
    split at read
    case isTrue => cases read
    case isFalse notLong =>
      have most : digits.length ≤ mostDigits := Nat.le_of_not_lt fun long => notLong ⟨rfl, long⟩
      split at read
      · cases read
        exact Nat.lt_of_lt_of_le (ofDigits_lt_pow bounded)
          (Nat.pow_le_pow_right (by decide) most)
      · cases read

/-- A run of digits is read as the number that it spells, unless it is decimal and too long. It is
the length of the run that decides, so a small number with many zeros in front is refused. -/
theorem readDigits_of_spells {base number : Nat} {characters : List Char} (some : characters ≠ [])
    (run : Spells base characters number) :
    readDigits base characters =
      if base = 10 ∧ mostDigits < characters.length then .error (.tooLong characters.length)
      else .ok number := by
  obtain ⟨digits, paired, rfl⟩ := run
  have length := paired.length_eq
  cases paired with
  | nil => contradiction
  | @cons c digit rest others read paired =>
    unfold readDigits readRun
    simp only [read, continueRun_of_digits paired]
    simp only [List.length_cons] at length ⊢
    simp [length]

end SortBench.Numeral
