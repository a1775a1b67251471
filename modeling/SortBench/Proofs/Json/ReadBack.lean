import SortBench.Proofs.Json.Written

/-!
# Written documents are read back

An exact document that is written without line breaks and spaces is read as the same document, or it
goes beyond what is read: it is nested too deep, or one of its integers has too many digits.

The proof is by induction on the document. A list and an object are read part by part, whatever was
read before; each part takes less fuel than it has symbols, twice.
-/

namespace SortBench.Json

open Text (Symbol)
open Numeral (IsShort decimalChars)

mutual

/-- Whether a document is nested at most so many levels deep and its integers are short. These are
the two limits of the reader. -/
def Document.fits (levels : Nat) : Document → Bool
  | .integer number => decide (IsShort number)
  | .array elements =>
    match levels with
    | 0 => false
    | levels + 1 => allFit levels elements
  | .object members =>
    match levels with
    | 0 => false
    | levels + 1 => allMembersFit levels members
  | _ => true

/-- Whether all documents of a list fit. -/
def allFit (levels : Nat) : List Document → Bool
  | [] => true
  | element :: rest => element.fits levels && allFit levels rest

/-- Whether all named documents of a list fit. -/
def allMembersFit (levels : Nat) : List (Text × Document) → Bool
  | [] => true
  | (_, member) :: rest => member.fits levels && allMembersFit levels rest

end

/-- How reading documents that may not fit ends: with what was read, or with a failure. -/
def outcome (fits : Bool) (document : Document) (rest : List Symbol) : Reading Document :=
  if fits then .ok (document, rest) else .error .excessive

/-- A document that is read back where it stands, if it fits. What stands behind it is left over, so
documents can be read one after another. -/
def ReadsBack (document : Document) : Prop :=
  ∀ fuel levels rest, 2 * document.chars.length ≤ fuel → Stops rest →
    readValue fuel levels (document.chars.map Symbol.character ++ rest) =
      outcome (document.fits levels) document rest

theorem skipSpace_of_canBegin {c : Char} (begins : canBegin c = true) (rest : List Symbol) :
    skipSpace (.character c :: rest) = .character c :: rest := by
  have noSpace : ∀ space ∈ [' ', '\t', '\n', '\r'], c ≠ space := by
    rintro space member rfl
    have each : ∀ space ∈ [' ', '\t', '\n', '\r'], canBegin space = false := by
      simp [canBegin]
    exact absurd begins (by simp [each c member])
  simp only [List.forall_mem_cons] at noSpace
  unfold skipSpace
  rw [List.dropWhile_cons_of_neg]
  simp [Symbol.isIn, noSpace]

/-- A comma or a closing bracket ends a number. -/
theorem stops_cons {c : Char} (outside : isNumberChar c = false) (rest : List Symbol) :
    Stops (.character c :: rest) := by
  rintro symbol ⟨⟩
  exact outside

/-- No space is skipped before a comma or a closing bracket. Compact texts have none, and where
there is none nothing is lost. -/
theorem skipSpace_of_mark {c : Char} (mark : c ∈ [',', ':', ']', '\x7d']) (rest : List Symbol) :
    skipSpace (.character c :: rest) = .character c :: rest := by
  have each : ∀ c ∈ [',', ':', ']', '\x7d'],
      Symbol.isIn (fun c => c == ' ' || c == '\t' || c == '\n' || c == '\r') c = false := by
    simp [Symbol.isIn]
  unfold skipSpace
  rw [List.dropWhile_cons_of_neg]
  simp [each c mark]

/-- An element is read where it stands; reading goes on after it if it fits. -/
theorem readElements_next {element : Document} (read : ReadsBack element) {fuel : Nat}
    (enough : 2 * element.chars.length ≤ fuel) (levels : Nat) (before : List Document)
    {rest : List Symbol} (stops : Stops rest) :
    readElements (fuel + 1) levels before (element.chars.map Symbol.character ++ rest) =
      if element.fits levels then
        match skipSpace rest with
        | .character ']' :: rest => .ok (.array (element :: before).reverse, rest)
        | .character ',' :: rest => readElements fuel levels (element :: before) (skipSpace rest)
        | rest => .error (.unexpected rest)
      else .error .excessive := by
  rw [readElements, read fuel levels rest enough stops]
  unfold outcome
  cases element.fits levels with
  | false => rfl
  | true => rfl

/-- The elements of a list are read back when each of them is. If one does not fit, reading fails,
and does so whichever it is. -/
theorem readElements_chars {first : Document} {others : List Document}
    (each : ∀ element ∈ first :: others, element.IsExact ∧ ReadsBack element) (fuel levels : Nat)
    (before : List Document) (rest : List Symbol)
    (enough : 2 * (first.chars.length + (elementChars others).length) < fuel) :
    readElements fuel levels before
        (first.chars.map Symbol.character ++
          ((elementChars others).map Symbol.character ++ .character ']' :: rest)) =
      outcome (allFit levels (first :: others)) (.array (before.reverse ++ first :: others))
        rest := by
  -- Each element read costs one unit of fuel and goes in front of those read before it.
  induction others generalizing first fuel before with
  | nil =>
    obtain ⟨fuel, rfl⟩ := Nat.exists_eq_succ_of_ne_zero (Nat.ne_zero_of_lt enough)
    obtain ⟨_, read⟩ := each first List.mem_cons_self
    simp only [elementChars, List.length_nil, List.map_nil, List.nil_append] at enough ⊢
    rw [readElements_next read (by omega) levels before (stops_cons rfl rest), allFit, allFit,
      Bool.and_true, skipSpace_of_mark (by decide)]
    simp only [List.reverse_cons]
    rfl
  | cons next more inductionHypothesis =>
    obtain ⟨fuel, rfl⟩ := Nat.exists_eq_succ_of_ne_zero (Nat.ne_zero_of_lt enough)
    obtain ⟨_, read⟩ := each first List.mem_cons_self
    have others : ∀ element ∈ next :: more, element.IsExact ∧ ReadsBack element :=
      fun element member => each element (List.mem_cons_of_mem _ member)
    obtain ⟨c, following, written, begins⟩ := (others next List.mem_cons_self).1.exists_begin
    rw [elementChars] at enough ⊢
    simp only [List.length_append, List.length_cons, List.cons_append, List.map_cons,
      List.map_append, List.append_assoc] at enough ⊢
    have tail := inductionHypothesis others fuel (first :: before) (by omega)
    rw [readElements_next read (by omega) levels before (stops_cons rfl _), allFit,
      skipSpace_of_mark (by decide)]
    rw [written, List.map_cons, List.cons_append] at tail ⊢
    simp only [skipSpace_of_canBegin begins, tail, List.reverse_cons, List.append_assoc]
    cases first.fits levels with
    | false => rfl
    | true => rfl

/-- A member of a new name goes in front of the others. -/
theorem putMember_of_new {name : Text} {members : List (Text × Document)}
    (new : name ∉ members.map Prod.fst) (document : Document) :
    putMember name document members = (name, document) :: members := by
  unfold putMember
  rw [List.filter_eq_self.mpr]
  intro member held
  rw [bne_iff_ne]
  rintro rfl
  exact new (List.mem_map_of_mem held)

/-- Where names are distinct, the next one is new, so that no member is replaced and the order of
the members is kept. -/
theorem new_of_distinct {name : Text} {document : Document} {before others : List (Text × Document)}
    (distinct : ((before.reverse ++ (name, document) :: others).map Prod.fst).Nodup) :
    name ∉ before.map Prod.fst := by
  rw [List.map_append, List.map_cons, List.map_reverse] at distinct
  intro member
  exact (List.nodup_append.mp distinct).2.2 name (List.mem_reverse.mpr member) name
    List.mem_cons_self rfl

/-- A written string is its escaped characters between two quotes. -/
theorem symbols_stringText (characters : List Char) (rest : List Symbol) :
    (stringText (Text.ofChars characters)).toList.map Symbol.character ++ rest =
      .character '"' :: ((characters.flatMap escaped).map Symbol.character ++
        .character '"' :: rest) := by
  rw [stringText_ofChars, String.toList_ofList]
  simp [quotedChars]

/-- A member of a new name is read where it stands; reading goes on after it if its document
fits. -/
theorem readMembers_next {name : Text} {document : Document}
    (named : ∃ characters, name = Text.ofChars characters) (exact : document.IsExact)
    (read : ReadsBack document) {fuel : Nat} (enough : 2 * document.chars.length ≤ fuel)
    (levels : Nat) {before : List (Text × Document)} (new : name ∉ before.map Prod.fst)
    {rest : List Symbol} (stops : Stops rest) :
    readMembers (fuel + 1) levels before
        ((stringText name).toList.map Symbol.character ++
          .character ':' :: (document.chars.map Symbol.character ++ rest)) =
      if document.fits levels then
        match skipSpace rest with
        | .character '\x7d' :: rest => .ok (.object ((name, document) :: before).reverse, rest)
        | .character ',' :: rest =>
          readMembers fuel levels ((name, document) :: before) (skipSpace rest)
        | rest => .error (.unexpected rest)
      else .error .excessive := by
  obtain ⟨characters, rfl⟩ := named
  obtain ⟨c, following, written, begins⟩ := exact.exists_begin
  have found := read fuel levels rest enough stops
  rw [symbols_stringText, readMembers, readString_escaped]
  dsimp only
  rw [skipSpace_of_mark (by decide)]
  rw [written, List.map_cons, List.cons_append] at found ⊢
  simp only [skipSpace_of_canBegin begins, found]
  unfold outcome
  cases document.fits levels with
  | false => rfl
  | true =>
    rw [← putMember_of_new new]
    rfl

/-- The members of an object are read back when the document of each of them is. -/
theorem readMembers_chars {name : Text} {first : Document} {others : List (Text × Document)}
    (each : ∀ member ∈ (name, first) :: others,
      (∃ characters, member.1 = Text.ofChars characters) ∧ member.2.IsExact ∧ ReadsBack member.2)
    (fuel levels : Nat) (before : List (Text × Document)) (rest : List Symbol)
    (distinct : ((before.reverse ++ (name, first) :: others).map Prod.fst).Nodup)
    (enough : 2 * (first.chars.length + (memberChars others).length) < fuel) :
    readMembers fuel levels before
        ((stringText name).toList.map Symbol.character ++
          .character ':' :: (first.chars.map Symbol.character ++
            ((memberChars others).map Symbol.character ++ .character '\x7d' :: rest))) =
      outcome (allMembersFit levels ((name, first) :: others))
        (.object (before.reverse ++ (name, first) :: others)) rest := by
  have new : name ∉ before.map Prod.fst := new_of_distinct distinct
  induction others generalizing name first fuel before with
  | nil =>
    obtain ⟨fuel, rfl⟩ := Nat.exists_eq_succ_of_ne_zero (Nat.ne_zero_of_lt enough)
    obtain ⟨named, exact, read⟩ := each (name, first) List.mem_cons_self
    simp only [memberChars, List.length_nil, List.map_nil, List.nil_append] at enough ⊢
    rw [readMembers_next named exact read (by dsimp only; omega) levels new (stops_cons rfl rest),
      allMembersFit, allMembersFit, Bool.and_true, skipSpace_of_mark (by decide)]
    simp only [List.reverse_cons]
    rfl
  | cons next more inductionHypothesis =>
    obtain ⟨fuel, rfl⟩ := Nat.exists_eq_succ_of_ne_zero (Nat.ne_zero_of_lt enough)
    obtain ⟨named, exact, read⟩ := each (name, first) List.mem_cons_self
    obtain ⟨nextName, nextDocument⟩ := next
    have others : ∀ member ∈ (nextName, nextDocument) :: more,
        (∃ characters, member.1 = Text.ofChars characters) ∧ member.2.IsExact ∧
          ReadsBack member.2 :=
      fun member held => each member (List.mem_cons_of_mem _ held)
    rw [memberChars] at enough ⊢
    simp only [List.length_append, List.length_cons, List.cons_append, List.map_cons,
      List.map_append, List.append_assoc] at enough ⊢
    have distinctTail : ((((name, first) :: before).reverse ++
        (nextName, nextDocument) :: more).map Prod.fst).Nodup := by
      simpa using distinct
    have newTail : nextName ∉ ((name, first) :: before).map Prod.fst := new_of_distinct distinctTail
    have tail := inductionHypothesis others fuel ((name, first) :: before) distinctTail (by omega)
      newTail
    obtain ⟨characters, nextNamed⟩ := (others _ List.mem_cons_self).1
    dsimp only at nextNamed
    rw [readMembers_next named exact read (by dsimp only; omega) levels new (stops_cons rfl _),
      allMembersFit, skipSpace_of_mark (by decide)]
    rw [nextNamed, symbols_stringText] at tail ⊢
    simp only [skipSpace_of_canBegin (show canBegin '"' = true from rfl), tail, List.reverse_cons,
      List.append_assoc]
    cases first.fits levels with
    | false => rfl
    | true => rfl

/-- What begins with no quote and no opening bracket is a number or one of the names. -/
theorem readValue_scalar {c : Char} (noQuote : c ≠ '"') (noBracket : c ≠ '[') (noBrace : c ≠ '\x7b')
    (fuel levels : Nat) (rest : List Symbol) :
    readValue (fuel + 1) levels (.character c :: rest) = readScalar (.character c :: rest) := by
  rw [readValue]
  · rintro _ ⟨⟩
    exact noQuote rfl
  · rintro _ ⟨⟩
    exact noBracket rfl
  · rintro _ ⟨⟩
    exact noBrace rfl

/-- It is enough to read with some fuel: no exact document is empty, so the fuel that is asked for
is never zero. -/
theorem ReadsBack.of_succ {document : Document} (exact : document.IsExact)
    (read : ∀ fuel levels rest, 2 * document.chars.length ≤ fuel + 1 → Stops rest →
      readValue (fuel + 1) levels (document.chars.map Symbol.character ++ rest) =
        outcome (document.fits levels) document rest) : ReadsBack document := by
  intro fuel levels rest enough stops
  obtain ⟨c, following, written, _⟩ := exact.exists_begin
  have some : fuel ≠ 0 := by
    rintro rfl
    rw [written] at enough
    cases enough
  obtain ⟨fuel, rfl⟩ := Nat.exists_eq_succ_of_ne_zero some
  exact read fuel levels rest enough stops

/-- A written integer is read back. -/
theorem readsBack_integer (number : Int) : ReadsBack (.integer number) := by
  refine .of_succ (.integer number) ?_
  intro fuel levels rest _ stops
  obtain ⟨c, following, written, begins⟩ := exists_decimalChars number
  have noMark : ∀ mark ∈ ['"', '[', '\x7b'], c ≠ mark := by
    have each : ∀ mark ∈ ['"', '[', '\x7b'], ¬ (mark = '-' ∨ mark.isDigit = true) := by simp
    rintro mark member rfl
    exact each c member begins
  simp only [List.forall_mem_cons] at noMark
  obtain ⟨noQuote, noBracket, noBrace, _⟩ := noMark
  have read := readScalar_decimalChars number stops
  rw [Document.chars, Document.fits, outcome]
  rw [written, List.map_cons, List.cons_append] at read ⊢
  rw [readValue_scalar noQuote noBracket noBrace, read]
  simp only [decide_eq_true_eq]

/-- A written string is read back. -/
theorem readsBack_text (characters : List Char) : ReadsBack (.text (Text.ofChars characters)) := by
  refine .of_succ (.text characters) ?_
  intro fuel levels rest _ _
  rw [Document.chars, symbols_stringText, readValue, readString_escaped]
  rfl

/-- A written list is read back when its elements are. An empty list is a case of its own, as its
closing bracket stands where an element would. -/
theorem readsBack_array {elements : List Document}
    (each : ∀ element ∈ elements, element.IsExact ∧ ReadsBack element) :
    ReadsBack (.array elements) := by
  refine .of_succ (.array fun element member => (each element member).1) ?_
  intro fuel levels rest enough _
  cases elements with
  | nil =>
    cases levels with
    | zero => rfl
    | succ levels => rfl
  | cons first others =>
    obtain ⟨c, following, written, begins⟩ := (each first List.mem_cons_self).1.exists_begin
    rw [Document.chars] at enough ⊢
    simp only [List.length_append, List.length_cons, List.cons_append, List.map_cons,
      List.map_append, List.append_assoc] at enough ⊢
    cases levels with
    | zero =>
      rw [readValue]
      rfl
    | succ levels =>
      have read := readElements_chars each fuel levels [] rest (by omega)
      rw [written, List.map_cons, List.cons_append] at read ⊢
      rw [readValue, skipSpace_of_canBegin begins]
      split
      case h_1 closed =>
        cases closed
        cases begins
      case h_2 => exact read

/-- A written object is read back when the documents of its members are. Names have to be distinct,
since of a repeated one the reader keeps a single document. -/
theorem readsBack_object {members : List (Text × Document)}
    (distinct : (members.map Prod.fst).Nodup)
    (each : ∀ member ∈ members,
      (∃ characters, member.1 = Text.ofChars characters) ∧ member.2.IsExact ∧
        ReadsBack member.2) : ReadsBack (.object members) := by
  refine .of_succ (.object distinct (fun member held => (each member held).1)
    fun member held => (each member held).2.1) ?_
  intro fuel levels rest enough _
  cases members with
  | nil =>
    cases levels with
    | zero => rfl
    | succ levels => rfl
  | cons first others =>
    obtain ⟨name, document⟩ := first
    obtain ⟨characters, named⟩ := (each _ List.mem_cons_self).1
    rw [Document.chars] at enough ⊢
    simp only [List.length_append, List.length_cons, List.cons_append, List.map_cons,
      List.map_append, List.append_assoc] at enough ⊢
    cases levels with
    | zero =>
      rw [readValue]
      rfl
    | succ levels =>
      have read := readMembers_chars each fuel levels [] rest distinct (by omega)
      dsimp only at named
      rw [named, symbols_stringText] at read ⊢
      rw [readValue, skipSpace_of_canBegin rfl]
      exact read

/-- An exact document is read back. Floating-point numbers are left out by the definition: they are
read as the number that is nearest to what is written, and that is another matter.

Proof: by induction on what makes a document exact, with one lemma for each kind of document. -/
theorem Document.IsExact.readsBack {document : Document} (exact : document.IsExact) :
    ReadsBack document := by
  induction exact with
  | null => exact .of_succ .null fun _ _ _ _ _ => rfl
  | boolean truth =>
    cases truth with
    | false => exact .of_succ (.boolean false) fun _ _ _ _ _ => rfl
    | true => exact .of_succ (.boolean true) fun _ _ _ _ _ => rfl
  | integer number => exact readsBack_integer number
  | text characters => exact readsBack_text characters
  | array each inductionHypothesis =>
    refine readsBack_array fun element member => ⟨each element member, ?_⟩
    exact inductionHypothesis element member
  | object distinct named each inductionHypothesis =>
    refine readsBack_object distinct fun member held => ⟨named member held, each member held, ?_⟩
    exact inductionHypothesis member held

/-- The compact text of an exact document is read as the document, if it fits; otherwise it goes
beyond what is read. So what one side writes and the other reads is lost for these two limits only,
and is never read as something else. -/
theorem readWithin_compact {document : Document} (exact : document.IsExact) (levels : Nat) :
    readWithin levels (Text.ofString document.compact) =
      if document.fits levels then .ok document else .error .excessive := by
  obtain ⟨c, following, written, begins⟩ := exact.exists_begin
  have stops : Stops [] := by
    rintro symbol ⟨⟩
  have read := exact.readsBack (2 * document.chars.length + 1) levels [] (by omega) stops
  rw [List.append_nil] at read
  have skipped : skipSpace (document.chars.map Symbol.character) =
      document.chars.map Symbol.character := by
    rw [written]
    exact skipSpace_of_canBegin begins _
  have length : (Text.ofChars document.chars).length = document.chars.length := by
    simp [Text.length, Text.ofChars]
  have symbols : (Text.ofChars document.chars).symbols = document.chars.map Symbol.character := rfl
  unfold readWithin
  rw [ofString_compact, length, symbols, skipped, read]
  unfold outcome
  cases document.fits levels with
  | false => rfl
  | true => rfl

end SortBench.Json
