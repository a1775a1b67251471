import SortBench.Proofs.Numeral.ReadBack

/-!
# What an integer literal denotes

A grammar of literals that does not mention how they are read: padding around an optional sign and
a magnitude, which is a decimal run without a zero in front, a run of zeros, or a base marker with a
run in its base. A text that is read as an integer denotes it. The other way round this holds of
every integer but zero that is short: a literal of it has no more decimal digits than are read,
while zeros can be too many.
-/

namespace SortBench

namespace Text

/-- A text without the items of a class at its ends, with these around it, is the text. -/
theorem exists_trimWhile {α : Type} (drop : α → Bool) (items : List α) :
    ∃ left right, items = left ++ trimWhile drop items ++ right ∧
      (∀ item ∈ left, drop item = true) ∧ ∀ item ∈ right, drop item = true := by
  refine ⟨items.takeWhile drop,
    ((items.dropWhile drop).reverse.takeWhile drop).reverse, ?_, ?_, ?_⟩
  · unfold trimWhile dropEndWhile
    rw [List.append_assoc, ← List.reverse_append, List.takeWhile_append_dropWhile,
      List.reverse_reverse, List.takeWhile_append_dropWhile]
  · exact List.all_eq_true.mp List.all_takeWhile
  · intro item member
    exact List.all_eq_true.mp List.all_takeWhile item (List.mem_reverse.mp member)

/-- Items of a class around others that are none of it are dropped, and exactly those. -/
theorem trimWhile_append {α : Type} {drop : α → Bool} {left body right : List α}
    (front : ∀ item ∈ left, drop item = true) (kept : ∀ item ∈ body, drop item = false)
    (back : ∀ item ∈ right, drop item = true) (filled : body ≠ []) :
    trimWhile drop (left ++ body ++ right) = body := by
  have first (items rest : List α) (same : ∀ item ∈ items, item ∈ body) (some : items ≠ []) :
      (items ++ rest).dropWhile drop = items ++ rest := by
    cases items with
    | nil => contradiction
    | cons item items => simp [kept item (same item List.mem_cons_self)]
  unfold trimWhile dropEndWhile
  rw [List.append_assoc, List.dropWhile_append_of_pos front, first body right (fun _ => id) filled,
    List.reverse_append, List.dropWhile_append_of_pos fun item member =>
      back item (List.mem_reverse.mp member)]
  have reversed := first body.reverse [] (fun _ => List.mem_reverse.mp) (by simpa)
  rw [List.append_nil] at reversed
  rw [reversed, List.reverse_reverse]

/-- No padding is a digit of any script. -/
theorem asciiDigit_of_isPadding {c : Char} (padding : isPadding c = true) : asciiDigit c = c := by
  have apart : ∀ first ∈ decimalZeros, ∀ value < 10,
      isPadding (Char.ofNat (first + value)) = false := by decide +kernel
  unfold asciiDigit digitValue?
  cases found : decimalZeros.find? fun first => first ≤ c.toNat && c.toNat < first + 10 with
  | none => rfl
  | some first =>
    have within := List.find?_some found
    simp only [Bool.and_eq_true, decide_eq_true_eq] at within
    have unpadded := apart first (List.mem_of_find?_eq_some found) (c.toNat - first) (by omega)
    rw [Nat.add_sub_cancel' within.1, Char.ofNat_toNat, padding] at unpadded
    cases unpadded

/-- What is visible as an ASCII digit is no padding. Digits of other scripts are covered by this
too, since they are first turned into ASCII digits. -/
theorem isPadding_of_isVisible {c : Char} (visible : IsVisible (asciiDigit c)) :
    isPadding c = false := by
  cases padding : isPadding c with
  | false => rfl
  | true =>
    rw [asciiDigit_of_isPadding padding] at visible
    rw [visible.isPadding] at padding
    cases padding

end Text

namespace Numeral

/-- What may follow a digit of a run: further digits, with an underscore before some of them. There
is no underscore at the end, and no two stand together. -/
inductive Further (base : Nat) : List Char → List Nat → Prop where
  /-- Nothing follows. -/
  | nothing : Further base [] []
  /-- A digit follows. -/
  | digit {c : Char} {rest : List Char} {value : Nat} {values : List Nat}
    (read : digit? base c = some value) (further : Further base rest values) :
    Further base (c :: rest) (value :: values)
  /-- A digit follows after an underscore. -/
  | separated {c : Char} {rest : List Char} {value : Nat} {values : List Nat}
    (read : digit? base c = some value) (further : Further base rest values) :
    Further base ('_' :: c :: rest) (value :: values)

/-- A run of digits, at least one, with single underscores between some of them. -/
inductive Run (base : Nat) : List Char → List Nat → Prop where
  /-- A digit and what follows it. -/
  | digits {c : Char} {rest : List Char} {value : Nat} {values : List Nat}
    (read : digit? base c = some value) (further : Further base rest values) :
    Run base (c :: rest) (value :: values)

/-- A magnitude, and the number that it is. -/
inductive Magnitude : List Char → Nat → Prop where
  /-- A decimal run that does not begin with a zero. -/
  | decimal {c : Char} {rest : List Char} {values : List Nat} (run : Run 10 (c :: rest) values)
    (nonzero : c ≠ '0') : Magnitude (c :: rest) (ofDigits 10 values)
  /-- A run of zeros. -/
  | zeros {text : List Char} {values : List Nat} (run : Run 10 text values)
    (zeros : ∀ value ∈ values, value = 0) : Magnitude text 0
  /-- A run in the base of a marker. -/
  | marked {letter : Char} {base : Nat} {text : List Char} {values : List Nat}
    (marker : markedBase? letter = some base) (run : Run base text values) :
    Magnitude ('0' :: letter :: text) (ofDigits base values)
  /-- A run in the base of a marker, with an underscore between them. -/
  | markedApart {letter : Char} {base : Nat} {text : List Char} {values : List Nat}
    (marker : markedBase? letter = some base) (run : Run base text values) :
    Magnitude ('0' :: letter :: '_' :: text) (ofDigits base values)

/-- A magnitude with a sign or without one, and the integer that it is. -/
inductive Signed : List Char → Int → Prop where
  /-- Without a sign. -/
  | bare {text : List Char} {number : Nat} (magnitude : Magnitude text number) :
    Signed text number
  /-- With a plus sign. -/
  | plus {text : List Char} {number : Nat} (magnitude : Magnitude text number) :
    Signed ('+' :: text) number
  /-- With a minus sign. -/
  | minus {text : List Char} {number : Nat} (magnitude : Magnitude text number) :
    Signed ('-' :: text) (-number)

/-- A text denotes an integer: it is a literal of it, with digits of any script, with padding around
it. This is the grammar of literals, without a word about how they are read. -/
structure Denotes (text : Text) (number : Int) : Prop where
  /-- The literal and the padding. -/
  exists_literal : ∃ left body right, text.legible = left ++ body ++ right ∧
    (∀ c ∈ left, Text.isPadding c = true) ∧ (∀ c ∈ right, Text.isPadding c = true) ∧
    Signed (body.map Text.asciiDigit) number

section Runs

variable {base : Nat} {text : List Char} {digits values : List Nat}

/-- A run is continued to the end of a text exactly by what may follow a digit. The reader stops at
the first character that does not fit, so that nothing is left says that all of them did. -/
theorem continueRun_eq_iff (before : List Nat) :
    continueRun base before text = some (digits, []) ↔
      ∃ values, Further base text values ∧ digits = before.reverse ++ values := by
  constructor
  · intro continued
    fun_induction continueRun base before text with
    | case1 before =>
      cases continued
      exact ⟨[], .nothing, (List.append_nil _).symm⟩
    | case2 before c rest value read inductionHypothesis =>
      obtain ⟨values, further, rfl⟩ := inductionHypothesis continued
      exact ⟨value :: values, .separated read further, by simp⟩
    | case3 => cases continued
    | case4 before c rest _ value read inductionHypothesis =>
      obtain ⟨values, further, rfl⟩ := inductionHypothesis continued
      exact ⟨value :: values, .digit read further, by simp⟩
    | case5 => cases continued
    | case6 => cases continued
  · rintro ⟨values, further, rfl⟩
    induction further generalizing before with
    | nothing => simp [continueRun]
    | @digit c rest value values read _ inductionHypothesis =>
      have noUnderscore : c ≠ '_' := by
        rintro rfl
        rw [digit?_underscore] at read
        cases read
      rw [continueRun]
      · rw [read]
        simp [inductionHypothesis]
      · exact fun _ _ same => absurd same noUnderscore
    | separated read _ inductionHypothesis =>
      rw [continueRun, read]
      simp [inductionHypothesis]

/-- The digits of a whole text are read exactly if it is a run of them. -/
theorem readRun_eq_iff : readRun base text = some (digits, []) ↔ Run base text digits := by
  cases text with
  | nil => exact iff_of_false (by simp [readRun]) nofun
  | cons c rest =>
    cases read : digit? base c with
    | none =>
      refine iff_of_false (by simp [readRun, read]) ?_
      rintro ⟨again, _⟩
      rw [read] at again
      cases again
    | some value =>
      simp only [readRun, read]
      rw [continueRun_eq_iff]
      constructor
      · rintro ⟨values, further, rfl⟩
        exact .digits read further
      · rintro ⟨again, further⟩
        rw [read] at again
        cases again
        exact ⟨_, further, rfl⟩

/-- A text is read as a number exactly if it is a run of digits of it that is not too long. In the
bases that a marker gives there is no limit. -/
theorem readDigits_eq_ok_iff {number : Nat} :
    readDigits base text = .ok number ↔
      ∃ digits, Run base text digits ∧ ofDigits base digits = number ∧
        ¬ (base = 10 ∧ mostDigits < digits.length) := by
  unfold readDigits
  constructor
  · intro read
    split at read
    case h_1 => cases read
    case h_2 digits rest found =>
      split at read
      case isTrue => cases read
      case isFalse short =>
        split at read
        case isTrue whole =>
          obtain rfl := List.isEmpty_iff.mp whole
          exact ⟨digits, readRun_eq_iff.mp found, Except.ok.inj read, short⟩
        case isFalse => cases read
  · rintro ⟨digits, run, rfl, short⟩
    rw [readRun_eq_iff.mpr run]
    dsimp only
    rw [if_neg short]
    rfl

/-- Digits whose value is zero are zeros. -/
theorem eq_zero_of_ofDigits (positive : 0 < base) (zero : ofDigits base digits = 0) :
    ∀ value ∈ digits, value = 0 := by
  induction digits using List.reverseRecOn with
  | nil => exact fun _ member => absurd member List.not_mem_nil
  | append_singleton digits last inductionHypothesis =>
    rw [ofDigits_concat] at zero
    have front : ofDigits base digits = 0 := by
      have product : ofDigits base digits * base = 0 := by omega
      exact (Nat.mul_eq_zero.mp product).resolve_right (Nat.ne_of_gt positive)
    intro value member
    obtain before | rfl := List.mem_append.mp member |>.imp_right List.mem_singleton.mp
    · exact inductionHypothesis front value before
    · omega

/-- The value of digits is no less than the power of the base that has as many digits after a first
one that is not zero. -/
theorem pow_le_ofDigits {first : Nat} (nonzero : first ≠ 0) (rest : List Nat) :
    base ^ rest.length ≤ ofDigits base (first :: rest) := by
  induction rest using List.reverseRecOn with
  | nil => simpa [ofDigits] using Nat.one_le_iff_ne_zero.mpr nonzero
  | append_singleton rest last inductionHypothesis =>
    rw [← List.cons_append, ofDigits_concat, List.length_append, List.length_singleton, pow_succ]
    exact Nat.le_trans (Nat.mul_le_mul_right base inductionHypothesis) (Nat.le_add_right ..)

/-- Digits whose value is below a power of the base are no more than its exponent, unless the first
one is zero. With zeros in front a small value may have any number of digits. -/
theorem length_le_of_ofDigits_lt (several : 1 < base) {first : Nat} (nonzero : first ≠ 0)
    {rest : List Nat} {most : Nat} (below : ofDigits base (first :: rest) < base ^ most) :
    (first :: rest).length ≤ most :=
  (Nat.pow_lt_pow_iff_right several).mp (Nat.lt_of_le_of_lt (pow_le_ofDigits nonzero rest) below)

/-- Only the character zero is the digit zero. Digits of other scripts have been turned into ASCII
before. -/
theorem eq_zero_of_digit? {c : Char} (read : digit? 10 c = some 0) : c = '0' := by
  unfold digit? at read
  simp only [isBetween_iff, Char.reduceToNat] at read
  have code : c.toNat = 0x30 := by
    split at read <;> grind
  exact Char.toNat_inj.mp code

theorem Further.isVisible (further : Further base text values) :
    ∀ c ∈ text, Text.IsVisible c := by
  induction further with
  | nothing => exact fun _ member => absurd member List.not_mem_nil
  | digit read _ inductionHypothesis =>
    exact List.forall_mem_cons.mpr ⟨isVisible_of_digit? read, inductionHypothesis⟩
  | separated read _ inductionHypothesis =>
    exact List.forall_mem_cons.mpr ⟨⟨by decide, by decide⟩,
      List.forall_mem_cons.mpr ⟨isVisible_of_digit? read, inductionHypothesis⟩⟩

/-- The characters of a run are visible, so no padding is taken from its ends. -/
theorem Run.isVisible (run : Run base text values) : ∀ c ∈ text, Text.IsVisible c := by
  obtain ⟨read, further⟩ := run
  exact List.forall_mem_cons.mpr ⟨isVisible_of_digit? read, further.isVisible⟩

end Runs

/-- The letter of a marker is visible, and it never marks the base ten. -/
theorem isVisible_of_markedBase? {letter : Char} {base : Nat}
    (marker : markedBase? letter = some base) : Text.IsVisible letter ∧ base ≠ 10 := by
  have letters : letter ∈ ['x', 'X', 'o', 'O', 'b', 'B'] ∧ base ∈ [16, 8, 2] := by
    unfold markedBase? at marker
    grind
  have visible : ∀ c ∈ ['x', 'X', 'o', 'O', 'b', 'B'], 0x21 ≤ c.toNat ∧ c.toNat < 0x7F := by
    simp
  have others : ∀ base ∈ [16, 8, 2], base ≠ 10 := by decide
  exact ⟨visible letter letters.1, others base letters.2⟩

section Magnitudes

variable {text : List Char} {number : Nat}

/-- What is read where a base may be marked is a magnitude. -/
theorem Magnitude.of_readMarked (read : readMarked text = .ok number) : Magnitude text number := by
  unfold readMarked at read
  split at read
  case h_1 letter rest =>
    split at read
    case h_1 base marker =>
      obtain ⟨digits, run, rfl, _⟩ := readDigits_eq_ok_iff.mp read
      unfold dropUnderscore at run
      split at run
      · exact .markedApart marker run
      · exact .marked marker run
    case h_2 =>
      unfold readZero at read
      split at read
      case h_1 found =>
        cases read
        obtain ⟨digits, run, zero, _⟩ := readDigits_eq_ok_iff.mp found
        exact .zeros run (eq_zero_of_ofDigits (by decide) zero)
      all_goals cases read
  case h_2 unmarked =>
    obtain ⟨digits, run, rfl, _⟩ := readDigits_eq_ok_iff.mp read
    obtain @⟨c, rest, value, values, digit, further⟩ := run
    by_cases zero : c = '0'
    · subst zero
      cases rest with
      | cons letter rest => exact absurd rfl (unmarked letter rest)
      | nil =>
        cases further
        cases digit
        exact .zeros (.digits rfl .nothing) (List.forall_mem_singleton.mpr rfl)
    · exact .decimal (.digits digit further) zero

/-- A magnitude that is not zero and not too great is read where a base may be marked. Zero is left
out, because a text of more zeros than the limit allows denotes it and is refused. -/
theorem Magnitude.readMarked (magnitude : Magnitude text number) (nonzero : number ≠ 0)
    (short : number < 10 ^ mostDigits) : readMarked text = .ok number := by
  cases magnitude with
  | @decimal c rest values run front =>
    have unmarked : Numeral.readMarked (c :: rest) = readDigits 10 (c :: rest) := by
      unfold Numeral.readMarked
      split
      case h_1 same =>
        cases same
        exact absurd rfl front
      case h_2 => rfl
    rw [unmarked, readDigits_eq_ok_iff]
    refine ⟨values, run, rfl, fun long => ?_⟩
    obtain @⟨_, _, value, others, digit, _⟩ := run
    have nonzero : value ≠ 0 := fun zero => front (eq_zero_of_digit? (zero ▸ digit))
    exact absurd long.2 (Nat.not_lt_of_le (length_le_of_ofDigits_lt (by decide) nonzero short))
  | zeros => exact absurd rfl nonzero
  | @marked letter base text values marker run =>
    have plain : dropUnderscore text = text := by
      obtain @⟨c, rest, value, _, digit, _⟩ := run
      unfold dropUnderscore
      split
      case h_1 same =>
        cases same
        rw [digit?_underscore] at digit
        cases digit
      case h_2 => rfl
    unfold Numeral.readMarked
    simp only [marker, plain]
    exact readDigits_eq_ok_iff.mpr
      ⟨values, run, rfl, fun long => (isVisible_of_markedBase? marker).2 long.1⟩
  | @markedApart letter base text values marker run =>
    unfold Numeral.readMarked
    simp only [marker, dropUnderscore]
    exact readDigits_eq_ok_iff.mpr
      ⟨values, run, rfl, fun long => (isVisible_of_markedBase? marker).2 long.1⟩

theorem Magnitude.isVisible (magnitude : Magnitude text number) :
    ∀ c ∈ text, Text.IsVisible c := by
  cases magnitude with
  | decimal run _ => exact run.isVisible
  | zeros run _ => exact run.isVisible
  | marked marker run =>
    exact List.forall_mem_cons.mpr ⟨⟨by decide, by decide⟩,
      List.forall_mem_cons.mpr ⟨(isVisible_of_markedBase? marker).1, run.isVisible⟩⟩
  | markedApart marker run =>
    exact List.forall_mem_cons.mpr ⟨⟨by decide, by decide⟩,
      List.forall_mem_cons.mpr ⟨(isVisible_of_markedBase? marker).1,
        List.forall_mem_cons.mpr ⟨⟨by decide, by decide⟩, run.isVisible⟩⟩⟩

/-- A magnitude begins with a digit, and so is never taken for a sign. -/
theorem Magnitude.exists_digit (magnitude : Magnitude text number) :
    ∃ c rest, text = c :: rest ∧ c.isDigit = true := by
  cases magnitude with
  | decimal run _ =>
    obtain ⟨digit, _⟩ := run
    exact ⟨_, _, rfl, isDigit_of_digit? digit⟩
  | zeros run _ =>
    obtain ⟨digit, _⟩ := run
    exact ⟨_, _, rfl, isDigit_of_digit? digit⟩
  | marked => exact ⟨_, _, rfl, rfl⟩
  | markedApart => exact ⟨_, _, rfl, rfl⟩

end Magnitudes

section Literals

variable {characters : List Char} {number : Int}

/-- What is read after a sign, with this sign, is a signed magnitude. -/
theorem Signed.of_readMarked
    (read : (readMarked (splitSign characters).2).map (signed (splitSign characters).1) =
      .ok number) : Signed characters number := by
  cases found : readMarked (splitSign characters).2 with
  | error misread =>
    rw [found] at read
    cases read
  | ok value =>
    rw [found] at read
    cases read
    have magnitude := Magnitude.of_readMarked found
    unfold splitSign at magnitude ⊢
    split
    · exact .minus magnitude
    · exact .plus magnitude
    · exact .bare (by simpa using magnitude)

/-- A signed magnitude that is short and not zero is read after its sign. -/
theorem Signed.readMarked (literal : Signed characters number) (nonzero : number ≠ 0)
    (short : IsShort number) :
    (readMarked (splitSign characters).2).map (signed (splitSign characters).1) = .ok number := by
  rw [isShort_iff] at short
  cases literal with
  | @bare text value magnitude =>
    obtain ⟨c, rest, rfl, digit⟩ := magnitude.exists_digit
    have unsigned : splitSign (c :: rest) = (false, c :: rest) := by
      unfold splitSign
      split <;> simp_all
    rw [unsigned, magnitude.readMarked (by omega) (by omega)]
    rfl
  | @plus text value magnitude =>
    show (Numeral.readMarked text).map (signed false) = _
    rw [magnitude.readMarked (by omega) (by omega)]
    rfl
  | @minus text value magnitude =>
    show (Numeral.readMarked text).map (signed true) = _
    rw [magnitude.readMarked (by omega) (by omega)]
    rfl

/-- A signed magnitude has characters, and they are visible. -/
theorem Signed.isVisible (literal : Signed characters number) :
    characters ≠ [] ∧ ∀ c ∈ characters, Text.IsVisible c := by
  cases literal with
  | bare magnitude =>
    obtain ⟨c, rest, filled, _⟩ := magnitude.exists_digit
    exact ⟨by simp [filled], magnitude.isVisible⟩
  | plus magnitude =>
    exact ⟨List.cons_ne_nil _ _,
      List.forall_mem_cons.mpr ⟨⟨by decide, by decide⟩, magnitude.isVisible⟩⟩
  | minus magnitude =>
    exact ⟨List.cons_ne_nil _ _,
      List.forall_mem_cons.mpr ⟨⟨by decide, by decide⟩, magnitude.isVisible⟩⟩

end Literals

/-- A text that is read where a base may be marked denotes what it is read as. No condition is
needed in this direction: the reader never accepts more than the grammar. -/
theorem Denotes.of_readLiteral {text : Text} {number : Int} (read : readLiteral text = .ok number) :
    Denotes text number := by
  obtain ⟨left, right, split, front, back⟩ := Text.exists_trimWhile Text.isPadding text.legible
  exact ⟨left, _, right, split, front, back, Signed.of_readMarked read⟩

/-- A short integer but zero is what a text is read as, where a base may be marked, exactly if the
text denotes it. So one reading is the grammar, up to the limit on digits, and there are no further
texts that are read by accident. -/
theorem readLiteral_eq_ok_iff {text : Text} {number : Int} (nonzero : number ≠ 0)
    (short : IsShort number) : readLiteral text = .ok number ↔ Denotes text number := by
  refine ⟨Denotes.of_readLiteral, ?_⟩
  rintro ⟨left, body, right, split, front, back, literal⟩
  obtain ⟨filled, visible⟩ := literal.isVisible
  have kept : ∀ c ∈ body, Text.isPadding c = false := fun c member =>
    Text.isPadding_of_isVisible (visible _ (List.mem_map_of_mem member))
  have trimmed : Text.trimWhile Text.isPadding text.legible = body := by
    rw [split]
    exact Text.trimWhile_append front kept back (by simpa using filled)
  unfold readLiteral readSigned
  rw [trimmed]
  exact literal.readMarked nonzero short

end Numeral

end SortBench
