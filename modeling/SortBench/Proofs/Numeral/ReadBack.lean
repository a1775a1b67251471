import SortBench.Proofs.Numeral.Digits

/-!
# Written integers are read back

An integer that is written in decimal is read as itself, both where decimal literals are read and
where a base may be marked, unless it has too many digits; then it is refused for their number. A
register value that is written in hexadecimal is read as itself where a base may be marked.

All characters of a written integer are visible ASCII characters. So there is no padding to drop
around them, and none of them is a digit of another script.
-/

namespace SortBench

namespace Text

/-- An ASCII character that is neither a control character nor a space. Reading leaves such
characters as they are: they are neither padding nor digits of another script. -/
def IsVisible (c : Char) : Prop :=
  0x21 ≤ c.toNat ∧ c.toNat < 0x7F

/-- A visible character is no padding. -/
theorem IsVisible.isPadding {c : Char} (visible : IsVisible c) : isPadding c = false := by
  have unpadded : ∀ code < 0x7F, 0x21 ≤ code → Text.isPadding (Char.ofNat code) = false := by
    decide
  simpa using unpadded c.toNat visible.2 visible.1

/-- A visible character is the ASCII digit of its value, if it is a digit. -/
theorem IsVisible.asciiDigit {c : Char} (visible : IsVisible c) : asciiDigit c = c := by
  have fixed : ∀ code < 0x7F, Text.asciiDigit (Char.ofNat code) = Char.ofNat code := by
    decide +kernel
  simpa using fixed c.toNat visible.2

/-- Where nothing is dropped, trimming changes nothing. -/
theorem trimWhile_eq_self {α : Type} {drop : α → Bool} {items : List α}
    (kept : ∀ item ∈ items, drop item = false) : trimWhile drop items = items := by
  have unchanged {others : List α} (same : ∀ item ∈ others, item ∈ items) :
      others.dropWhile drop = others := by
    cases others with
    | nil => rfl
    | cons first rest => simp [kept first (same first (by simp))]
  unfold trimWhile dropEndWhile
  rw [unchanged fun _ member => member, unchanged fun _ => List.mem_reverse.mp,
    List.reverse_reverse]

@[simp]
theorem legible_ofChars (characters : List Char) : (ofChars characters).legible = characters := by
  simp [legible, ofChars, Function.comp_def, Symbol.legible]

@[simp]
theorem ofString_ofList (characters : List Char) :
    ofString (String.ofList characters) = ofChars characters := by
  simp [ofString]

end Text

namespace Numeral

/-- Characters are between others by their code points. -/
theorem isBetween_iff (low c high : Char) : (decide (low ≤ c) && decide (c ≤ high)) = true ↔
    low.toNat ≤ c.toNat ∧ c.toNat ≤ high.toNat := by
  simp [Char.le_def, UInt32.le_iff_toNat_le]

/-- Digits are visible. -/
theorem isVisible_of_digit? {base digit : Nat} {c : Char} (read : digit? base c = some digit) :
    Text.IsVisible c := by
  unfold digit? at read
  simp only [isBetween_iff, Char.reduceToNat] at read
  unfold Text.IsVisible
  split at read <;> grind

/-- A run of digits is visible. -/
theorem Spells.isVisible {base number : Nat} {characters : List Char}
    (run : Spells base characters number) : ∀ c ∈ characters, Text.IsVisible c := by
  intro c member
  obtain ⟨digit, read⟩ := run.exists_digit? c member
  exact isVisible_of_digit? read

/-- A literal of visible characters is read without further ado: it is neither trimmed nor changed
to other digits first. -/
theorem readSigned_ofChars (magnitude : List Char → Except Misread Nat) {characters : List Char}
    (visible : ∀ c ∈ characters, Text.IsVisible c) :
    readSigned magnitude (Text.ofChars characters) =
      (magnitude (splitSign characters).2).map (signed (splitSign characters).1) := by
  have trimmed : Text.trimWhile Text.isPadding characters = characters :=
    Text.trimWhile_eq_self fun c member => (visible c member).isPadding
  have ascii : characters.map Text.asciiDigit = characters := by
    rw [List.map_congr_left fun c member => (visible c member).asciiDigit, List.map_id']
  unfold readSigned
  rw [Text.legible_ofChars, trimmed, ascii]

/-- An integer is its magnitude with its sign. -/
theorem signed_natAbs (number : Int) : signed (number < 0) number.natAbs = number := by
  unfold signed
  by_cases negative : number < 0
  · rw [decide_eq_true negative, if_pos rfl]
    omega
  · rw [decide_eq_false negative, if_neg Bool.false_ne_true]
    omega

/-- A run of digits has no sign to split off. -/
theorem Spells.splitSign {base number : Nat} {characters : List Char}
    (run : Spells base characters number) : splitSign characters = (false, characters) := by
  obtain ⟨digits, paired, _⟩ := run
  cases paired with
  | nil => rfl
  | @cons c digit rest others read _ =>
    unfold Numeral.splitSign
    split
    · simp_all [digit?]
    · simp_all [digit?]
    · rfl

/-- The sign of a written integer is split off, and its digits are left. -/
theorem splitSign_decimalChars (number : Int) :
    splitSign (decimalChars number) = (decide (number < 0), decimalDigits number.natAbs) := by
  unfold decimalChars
  by_cases negative : number < 0
  · rw [if_pos negative, decide_eq_true negative]
    rfl
  · rw [if_neg negative, decide_eq_false negative]
    exact (spells_decimalDigits number.natAbs).splitSign

/-- A numeral is not empty. -/
theorem decimalChars_ne_nil (number : Int) : decimalChars number ≠ [] := by
  unfold decimalChars
  split
  · exact List.cons_ne_nil _ _
  · exact Nat.toDigits_ne_nil

/-- A written integer is visible. -/
theorem isVisible_decimalChars (number : Int) : ∀ c ∈ decimalChars number, Text.IsVisible c := by
  have digits := (spells_decimalDigits number.natAbs).isVisible
  unfold decimalChars
  split
  · intro c member
    obtain rfl | later := List.mem_cons.mp member
    · exact ⟨by decide, by decide⟩
    · exact digits c later
  · exact digits

/-- The short integers are those below a power of ten. Being short is defined by the number of
digits, and this bound is how it is compared. -/
theorem isShort_iff (number : Int) : IsShort number ↔ number.natAbs < 10 ^ mostDigits :=
  Nat.length_toDigits_le_iff (by decide) (by decide)

/-- The least natural number that is not short. It is named by its power and never computed, and it
stands for all integers that are too long where an instance is wanted. -/
theorem not_isShort_pow : ¬ IsShort (10 ^ mostDigits) := by
  have ten : Int.natAbs 10 = 10 := rfl
  rw [isShort_iff, Int.natAbs_pow, ten]
  exact Nat.lt_irrefl _

/-- The sign does not count. -/
theorem isShort_neg {number : Int} : IsShort (-number) ↔ IsShort number := by
  rw [IsShort, IsShort, Int.natAbs_neg]

/-- The digits of an integer are read as its magnitude, if it is short, and otherwise refused for
their number. -/
theorem readDigits_decimalDigits (number : Int) :
    readDigits 10 (decimalDigits number.natAbs) =
      if IsShort number then .ok number.natAbs
      else .error (.tooLong (decimalDigits number.natAbs).length) := by
  have some : decimalDigits number.natAbs ≠ [] := Nat.toDigits_ne_nil
  rw [readDigits_of_spells some (spells_decimalDigits number.natAbs)]
  by_cases short : IsShort number
  · rw [if_pos short, if_neg fun long => Nat.not_lt_of_le short long.2]
  · rw [if_neg short, if_pos ⟨rfl, Nat.lt_of_not_le short⟩]

/-- The digits of an integer without a base marker are read likewise. A zero in front would be a
marker without a letter, but there is none. -/
theorem readMarked_decimalDigits (number : Int) :
    readMarked (decimalDigits number.natAbs) = readDigits 10 (decimalDigits number.natAbs) := by
  unfold readMarked
  split
  case h_1 letter rest written =>
    have positive : 0 < number.natAbs := by
      apply Nat.pos_of_ne_zero
      intro zero
      rw [zero] at written
      cases written
    have front := decimalDigits_head? positive
    rw [written] at front
    exact absurd rfl front
  case h_2 => rfl

/-- An integer in decimal is read as itself, if it is short. -/
theorem readDecimal_decimal (number : Int) :
    readDecimal (decimal number) =
      if IsShort number then .ok number
      else .error (.tooLong (decimalDigits number.natAbs).length) := by
  unfold readDecimal decimal
  rw [Text.ofString_ofList, readSigned_ofChars _ (isVisible_decimalChars number),
    splitSign_decimalChars, readDigits_decimalDigits]
  split
  · exact congrArg Except.ok (signed_natAbs number)
  · rfl

/-- It is read so as well where a base may be marked. The two readers differ on other texts only. -/
theorem readLiteral_decimal (number : Int) :
    readLiteral (decimal number) =
      if IsShort number then .ok number
      else .error (.tooLong (decimalDigits number.natAbs).length) := by
  rw [← readDecimal_decimal]
  unfold readLiteral readDecimal decimal
  rw [Text.ofString_ofList, readSigned_ofChars _ (isVisible_decimalChars number),
    readSigned_ofChars _ (isVisible_decimalChars number), splitSign_decimalChars,
    readMarked_decimalDigits]

theorem natAbs_signed (negative : Bool) (magnitude : Nat) :
    (signed negative magnitude).natAbs = magnitude := by
  cases negative <;> simp [signed]

/-- Digits that are not too many have a short value. -/
theorem isShort_signed {digits : List Char} (few : digits.length ≤ mostDigits) (negative : Bool) :
    IsShort (signed negative (ofDigits 10 (digits.filterMap (digit? 10)))) := by
  have bounded : ∀ digit ∈ digits.filterMap (digit? 10), digit < 10 := by
    intro digit member
    obtain ⟨c, _, read⟩ := List.mem_filterMap.mp member
    exact lt_of_digit? read
  have fewer : (digits.filterMap (digit? 10)).length ≤ mostDigits :=
    (List.length_filterMap_le _ _).trans few
  rw [isShort_iff, natAbs_signed]
  exact (ofDigits_lt_pow bounded).trans_le (Nat.pow_le_pow_right (by decide) fewer)

/-- Only short integers are read. Whatever has come in as a text can therefore be written out
again. -/
theorem isShort_of_readDecimal {text : Text} {number : Int}
    (read : readDecimal text = .ok number) : IsShort number := by
  unfold readDecimal readSigned at read
  dsimp only at read
  generalize splitSign _ = split at read
  cases magnitude : readDigits 10 split.2 with
  | error misread =>
    rw [magnitude] at read
    cases read
  | ok value =>
    rw [magnitude] at read
    cases read
    rw [isShort_iff, natAbs_signed]
    exact lt_of_readDigits magnitude

/-- An integer of at most nineteen digits is short. Sizes, counts and limits are shown to be short
by this, with no need to look at the power of ten. -/
theorem isShort_of_lt {number : Int} (small : number.natAbs < 10 ^ 19) : IsShort number :=
  (isShort_iff number).mpr
    (Nat.lt_of_lt_of_le small (Nat.pow_le_pow_right (by decide) (by decide)))

/-- A natural number below a short one is short. -/
theorem IsShort.of_le {number : Int} (short : IsShort number) {below : Nat}
    (le : (below : Int) ≤ number) : IsShort below := by
  rw [isShort_iff] at short ⊢
  omega

/-- A register value in hexadecimal is read as itself where a base may be marked. -/
theorem readLiteral_registerHex (value : Nat) : readLiteral (registerHex value) = .ok value := by
  have run := spells_hexDigits 4 value
  have visible : ∀ c ∈ '0' :: 'x' :: Text.hexDigits 4 value, Text.IsVisible c := by
    simp only [List.forall_mem_cons]
    exact ⟨⟨by decide, by decide⟩, ⟨by decide, by decide⟩, run.isVisible⟩
  have some : Text.hexDigits 4 value ≠ [] := by
    simp [Text.hexDigits, Nat.toDigits_ne_nil]
  have plain : dropUnderscore (Text.hexDigits 4 value) = Text.hexDigits 4 value := by
    obtain ⟨digits, paired, _⟩ := run
    revert some
    generalize Text.hexDigits 4 value = characters at paired
    intro some
    cases paired with
    | nil => rfl
    | @cons c digit rest others read _ =>
      unfold dropUnderscore
      split
      · simp_all [digit?_underscore]
      · rfl
  have magnitude : readMarked ('0' :: 'x' :: Text.hexDigits 4 value) = .ok value := by
    show readDigits 16 (dropUnderscore (Text.hexDigits 4 value)) = _
    rw [plain, readDigits_of_spells some run, if_neg (by simp)]
  unfold readLiteral registerHex
  rw [Text.ofString_ofList, readSigned_ofChars _ visible]
  show (readMarked ('0' :: 'x' :: Text.hexDigits 4 value)).map (signed false) = _
  rw [magnitude]
  rfl

end Numeral

end SortBench
