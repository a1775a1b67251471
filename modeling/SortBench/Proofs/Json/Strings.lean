import SortBench.Json.Quoted
import SortBench.Json.Text
import SortBench.Proofs.Numeral.ReadBack

/-!
# Written strings are read back

A string is written character by character: as itself, by a short escape, or by the escapes of its
one or two UTF-16 units. Reading gives the same parts again, and joining them the same characters.
Two units are joined only when they are the halves of one character, since no single character is
written by half of a pair.
-/

namespace SortBench

namespace Text

/-- A text that is a string is a text of characters. Other texts have halves of surrogate pairs in
them, which no string has. -/
theorem exists_ofChars {text : Text} (plain : text.string?.isSome = true) :
    ∃ characters, text = ofChars characters := by
  obtain ⟨symbols⟩ := text
  suffices found : ∃ characters : List Char, symbols = characters.map Symbol.character by
    obtain ⟨characters, rfl⟩ := found
    exact ⟨characters, rfl⟩
  unfold string? at plain
  rw [Option.isSome_map] at plain
  induction symbols with
  | nil => exact ⟨[], rfl⟩
  | cons symbol rest inductionHypothesis =>
    cases symbol with
    | half unit => simp [Symbol.char?] at plain
    | character c =>
      cases others : rest.mapM Symbol.char? with
      | none => simp [Symbol.char?, others] at plain
      | some characters =>
        obtain ⟨characters, rfl⟩ := inductionHypothesis (by simp [others])
        exact ⟨c :: characters, rfl⟩

theorem Symbol.ofNumber_toNat (c : Char) : ofNumber c.toNat = character c := by
  have valid : c.toNat.isValidChar := c.valid
  rw [ofNumber, if_pos valid, Char.ofNat_toNat]

/-- The code point of a character is no half of a surrogate pair, so two characters are never joined
to one. -/
theorem isHigh_toNat (c : Char) : isHigh c.toNat = false := by
  have valid : c.toNat.isValidChar := c.valid
  unfold Nat.isValidChar at valid
  unfold isHigh
  simp only [Bool.and_eq_false_iff, decide_eq_false_iff_not]
  omega

end Text

namespace Json

open Text (Symbol)

/-- Characters that are read as parts which are joined to one character, whatever stands after them;
something has to. An escape is read before it is known whether it is half of a pair, hence the two
steps. -/
def StandFor (written : List Char) (c : Char) : Prop :=
  ∃ parts : List Part,
    (∀ opening before rest, rest ≠ [] →
      readParts opening before (written.map Symbol.character ++ rest) =
        readParts opening (parts.reverse ++ before) rest) ∧
      ∀ more, joinParts (parts ++ more) = .character c :: joinParts more

/-- A short escape stands for its character. -/
theorem standFor_shortEscape {letter c : Char} (listed : (letter, c) ∈ shortEscapes) :
    StandFor ['\\', letter] c := by
  have each : ∀ entry ∈ shortEscapes, entry.1 ≠ 'u' ∧
      shortEscape? (.character entry.1) = some (.symbol (.character entry.2)) := by
    decide
  obtain ⟨noUnit, read⟩ := each _ listed
  have otherLetter : Symbol.character letter ≠ .character 'u' := by simpa using noUnit
  refine ⟨[.symbol (.character c)], ?_, fun _ => rfl⟩
  intro opening before rest _
  show readParts opening before (.character '\\' :: .character letter :: rest) = _
  rw [readParts, read]
  · rfl
  · exact fun _ _ _ _ _ _ unit => absurd unit otherLetter
  · exact otherLetter

/-- A character that needs no escape stands for itself. Those that do are the quote, the backslash
and what cannot be printed. -/
theorem standFor_self {c : Char} (printable : 0x20 ≤ c.toNat) (noQuote : c ≠ '"')
    (noBackslash : c ≠ '\\') : StandFor [c] c := by
  have noQuoteSymbol : Symbol.character c ≠ .character '"' := by simpa using noQuote
  have noBackslashSymbol : Symbol.character c ≠ .character '\\' := by simpa using noBackslash
  have visible : ¬ (Symbol.character c).number < 0x20 := Nat.not_lt.mpr printable
  refine ⟨[.symbol (.character c)], ?_, fun _ => rfl⟩
  intro opening before rest _
  show readParts opening before (.character c :: rest) = _
  rw [readParts, if_neg visible]
  · rfl
  · exact noQuoteSymbol
  · exact fun same => absurd same noBackslashSymbol
  · exact fun _ _ _ _ _ _ same => absurd same noBackslashSymbol
  · exact fun _ same => absurd same noBackslashSymbol
  · exact fun _ _ same => absurd same noBackslashSymbol

/-- A unit has four hexadecimal digits, which are read as the unit. -/
theorem exists_hexDigits {unit : Nat} (fits : unit < 0x10000) :
    ∃ a b c d, Text.hexDigits 4 unit = [a, b, c, d] ∧
      unit? (.character a) (.character b) (.character c) (.character d) = some unit := by
  have length : (Text.hexDigits 4 unit).length = 4 := by
    have short : (Nat.toDigits 16 unit).length ≤ 4 :=
      (Nat.length_toDigits_le_iff (by decide) (by decide)).mpr fits
    simp only [Text.hexDigits, List.length_append, List.length_replicate]
    omega
  obtain ⟨digits, paired, value⟩ := Numeral.spells_hexDigits 4 unit
  revert length paired
  generalize Text.hexDigits 4 unit = characters
  intro length paired
  obtain _ | ⟨first, _ | ⟨second, _ | ⟨third, _ | ⟨fourth, _ | ⟨_, _⟩⟩⟩⟩⟩ := paired
  case cons.cons.cons.cons.nil =>
    refine ⟨_, _, _, _, rfl, ?_⟩
    unfold unit? hexDigit? Symbol.legible
    rw [first, second, third, fourth, ← value]
    simp [Numeral.ofDigits]
  all_goals simp at length

theorem readParts_unitEscape {unit : Nat} (fits : unit < 0x10000) (opening : List Symbol)
    (before : List Part) {rest : List Symbol} (more : rest ≠ []) :
    readParts opening before ((unitEscape unit).map Symbol.character ++ rest) =
      readParts opening (.unit unit :: before) rest := by
  obtain ⟨a, b, c, d, digits, read⟩ := exists_hexDigits fits
  obtain ⟨next, others, rfl⟩ := List.exists_cons_of_ne_nil more
  unfold unitEscape
  rw [digits]
  show readParts opening before (.character '\\' :: .character 'u' :: .character a ::
    .character b :: .character c :: .character d :: next :: others) = _
  rw [readParts, read]

/-- A unit that is no first half of a pair stays on its own. -/
theorem joinParts_single {unit : Nat} (single : Text.isHigh unit = false) (more : List Part) :
    joinParts (.unit unit :: more) = .ofNumber unit :: joinParts more := by
  cases more with
  | nil => rfl
  | cons part others =>
    cases part with
    | symbol symbol => rfl
    | unit low =>
      rw [joinParts, single, Bool.false_and, if_neg Bool.false_ne_true]

/-- The two halves of a pair are joined. -/
theorem joinParts_pair {high low : Nat} (isHigh : Text.isHigh high = true)
    (isLow : Text.isLow low = true) (more : List Part) :
    joinParts (.unit high :: .unit low :: more) =
      .ofNumber (Text.ofPair high low) :: joinParts more := by
  rw [joinParts, isHigh, isLow, Bool.true_and, if_pos rfl]

/-- A character beyond one unit is the pair of its two units: the first is a first half, the second
a second half, and together they are its code point. -/
theorem units_of_character {number : Nat} (double : 0x10000 ≤ number) (valid : number < 0x110000) :
    ∃ high low, 0xD800 + (number - 0x10000) / 0x400 = high ∧
      0xDC00 + (number - 0x10000) % 0x400 = low ∧ high < 0x10000 ∧ low < 0x10000 ∧
      Text.isHigh high = true ∧ Text.isLow low = true ∧ Text.ofPair high low = number := by
  refine ⟨_, _, rfl, rfl, ?_⟩
  unfold Text.isHigh Text.isLow Text.ofPair
  simp only [Bool.and_eq_true, decide_eq_true_eq]
  omega

/-- The escapes of the units of a character stand for it, be it one unit or two. -/
theorem standFor_characterEscape (c : Char) : StandFor (characterEscape c) c := by
  unfold characterEscape
  split
  case isTrue single =>
    refine ⟨[.unit c.toNat], fun opening before rest => readParts_unitEscape single _ _, ?_⟩
    intro more
    rw [← Symbol.ofNumber_toNat c]
    exact joinParts_single (Text.isHigh_toNat c) more
  case isFalse double =>
    have valid : c.toNat.isValidChar := c.valid
    have below : c.toNat < 0x110000 := by
      unfold Nat.isValidChar at valid
      omega
    obtain ⟨high, low, highUnit, lowUnit, highFits, lowFits, isHigh, isLow, pair⟩ :=
      units_of_character (Nat.not_lt.mp double) below
    dsimp only
    rw [highUnit, lowUnit]
    refine ⟨[.unit high, .unit low], ?_, ?_⟩
    · intro opening before rest more
      rw [List.map_append, List.append_assoc, readParts_unitEscape highFits,
        readParts_unitEscape lowFits _ _ more]
      · rfl
      · simp [unitEscape]
    · intro more
      rw [← Symbol.ofNumber_toNat c, ← pair]
      exact joinParts_pair isHigh isLow more

/-- Every written character stands for the character. This is the whole of escaping, by cases on how
the character is written. -/
theorem standFor_escaped (c : Char) : StandFor (escaped c) c := by
  unfold escaped
  simp only [Bool.or_eq_true, beq_iff_eq]
  split
  case isTrue marked =>
    obtain rfl | rfl := marked
    · exact standFor_shortEscape (by decide)
    · exact standFor_shortEscape (by decide)
  case isFalse plain =>
    obtain ⟨noQuote, noBackslash⟩ := not_or.mp plain
    split
    case isTrue same => exact same ▸ standFor_shortEscape (by decide)
    split
    case isTrue same => exact same ▸ standFor_shortEscape (by decide)
    split
    case isTrue same => exact same ▸ standFor_shortEscape (by decide)
    split
    case isTrue same => exact same ▸ standFor_shortEscape (by decide)
    split
    case isTrue same => exact same ▸ standFor_shortEscape (by decide)
    split
    case isTrue printable =>
      refine standFor_self ?_ noQuote noBackslash
      simp only [Bool.and_eq_true, decide_eq_true_eq, Char.le_def, UInt32.le_iff_toNat_le]
        at printable
      exact printable.1
    case isFalse => exact standFor_characterEscape c

/-- Written characters up to a quote are read as parts that are joined to them. The quote cannot be
mistaken for one of the characters, as a quote among these is escaped. -/
theorem readParts_escaped (opening : List Symbol) (before : List Part) (characters : List Char)
    (rest : List Symbol) :
    ∃ parts, readParts opening before
        ((characters.flatMap escaped).map Symbol.character ++ .character '"' :: rest) =
          .ok (before.reverse ++ parts, rest) ∧
      joinParts parts = characters.map Symbol.character := by
  -- The parts of the characters so far stand in front, so any parts may be there at the start.
  induction characters generalizing before with
  | nil =>
    refine ⟨[], ?_, rfl⟩
    rw [List.append_nil]
    rfl
  | cons c others inductionHypothesis =>
    obtain ⟨parts, read, joined⟩ := standFor_escaped c
    obtain ⟨further, readOthers, joinedOthers⟩ := inductionHypothesis (parts.reverse ++ before)
    refine ⟨parts ++ further, ?_, ?_⟩
    · rw [List.flatMap_cons, List.map_append, List.append_assoc, read, readOthers]
      · simp
      · simp
    · rw [joined, joinedOthers, List.map_cons]

/-- The characters of a string between its quotes. -/
def quotedChars (characters : List Char) : List Char :=
  '"' :: characters.flatMap escaped ++ ['"']

theorem stringText_ofChars (characters : List Char) :
    stringText (Text.ofChars characters) = String.ofList (quotedChars characters) := by
  unfold stringText quotedChars Text.ofChars
  rw [List.flatMap_map]
  rfl

/-- A written string is read as its characters, whichever they are. -/
theorem readString_escaped (opening : List Symbol) (characters : List Char) (rest : List Symbol) :
    readString opening
        ((characters.flatMap escaped).map Symbol.character ++ .character '"' :: rest) =
      .ok (Text.ofChars characters, rest) := by
  obtain ⟨parts, read, joined⟩ := readParts_escaped opening [] characters rest
  unfold readString
  rw [read, List.reverse_nil, List.nil_append]
  dsimp only
  rw [joined]
  rfl

end Json

end SortBench
