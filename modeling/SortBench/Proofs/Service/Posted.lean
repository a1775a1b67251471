import SortBench.Proofs.Json.Fitting
import SortBench.Proofs.Service.Statuses

/-!
# What is posted is read

A request to draw values or to sort integers is posted as the compact text of an object. The service
reads it as the request again, unless one of its integers has more digits than are read; then the
body is unreadable.

However a request is posted, its integers are short once it is read: a number in the body is, since
the body fits; a text is read under the same limit on digits; and a floating-point number has to be
far smaller. So no reply fails over writing an integer that was posted.
-/

namespace SortBench

/-- A text that begins as an object with members is received as it is. It begins with two ASCII
characters, from which the encoding of a body is told. -/
theorem Text.received_object (rest : List Char) :
    received (ofChars ('\x7b' :: '"' :: rest)) = some (ofChars ('\x7b' :: '"' :: rest)) := by
  have utf8 (more : List UInt8) : Encoding.detect (0x7B :: 0x22 :: more) = .utf8 := by
    unfold Encoding.detect
    split
    case h_1 shown =>
      cases shown
      rfl
    case h_2 shown =>
      cases shown
      rfl
    case h_3 => rfl
  obtain ⟨more, bytes⟩ : ∃ more, (ofChars ('\x7b' :: '"' :: rest)).symbols.flatMap
      Encoding.bytesOf = 0x7B :: 0x22 :: more := ⟨_, rfl⟩
  unfold received
  simp only [bytes, utf8]
  rfl

namespace Service

open Json
open Numeral (IsShort)

/-- The compact text of an exact object with members is read as a body, if it fits. -/
theorem readBody_compact {members : List (Text × Document)} (filled : members ≠ [])
    (exact : (Document.object members).IsExact) :
    readBody (Text.ofString (Document.object members).compact) =
      if (Document.object members).fits deepestNesting then .ok (some (.object members))
      else .error .unreadableBody := by
  have read := readWithin_compact exact deepestNesting
  obtain ⟨rest, begun⟩ : ∃ rest, (Document.object members).chars = '\x7b' :: '"' :: rest := by
    obtain ⟨⟨name, first⟩, others, rfl⟩ := List.exists_cons_of_ne_nil filled
    rw [Document.chars, stringText, String.toList_ofList]
    exact ⟨_, rfl⟩
  rw [ofString_compact, begun] at read ⊢
  have notEmpty : (Text.ofChars ('\x7b' :: '"' :: rest)).isEmpty = false := rfl
  unfold readBody
  rw [if_neg (Bool.eq_false_iff.mp notEmpty), Text.received_object]
  dsimp only [Json.read]
  rw [read]
  cases (Document.object members).fits deepestNesting with
  | false => rfl
  | true => rfl

/-- A required body is read by its document, and one that does not fit is refused before its fields
are looked at. -/
theorem readRequired_compact {α : Type} (read : Document → Checked α)
    {members : List (Text × Document)} (filled : members ≠ [])
    (exact : (Document.object members).IsExact) :
    readRequired read (Text.ofString (Document.object members).compact) =
      if (Document.object members).fits deepestNesting then accepted (read (.object members))
      else .error .unreadableBody := by
  unfold readRequired
  rw [readBody_compact filled exact]
  cases (Document.object members).fits deepestNesting with
  | false => rfl
  | true => rfl

/-- The members of a request to draw values. A seed that is not given is left out. -/
def DrawRequest.figures (request : DrawRequest) : List (Text × Int) :=
  match request.seed with
  | none => [("count", request.count)]
  | some seed => [("seed", seed), ("count", request.count)]

/-- What is posted for a request to draw values. -/
def DrawRequest.body (request : DrawRequest) : Text :=
  (Document.ofFigures request.figures).compact

/-- The integers of a request to draw values have no more digits than are read. -/
def DrawRequest.IsShort (request : DrawRequest) : Prop :=
  ∀ figure ∈ request.figures, Numeral.IsShort figure.2

/-- An object of named integers is exact when the names are distinct strings. -/
theorem isExact_ofFigures {figures : List (Text × Int)} (distinct : (figures.map Prod.fst).Nodup)
    (named : ∀ figure ∈ figures, ∃ characters, figure.1 = Text.ofChars characters) :
    (Document.ofFigures figures).IsExact := by
  refine .object ?_ ?_ ?_
  · rw [List.map_map]
    exact distinct
  · simp only [List.forall_mem_map]
    exact named
  · simp only [List.forall_mem_map]
    exact fun figure _ => .integer figure.2

/-- An object of named integers fits when these are short. -/
theorem fits_ofFigures (levels : Nat) (figures : List (Text × Int)) :
    (Document.ofFigures figures).fits (levels + 1) = true ↔
      ∀ figure ∈ figures, IsShort figure.2 := by
  show allMembersFit levels (figures.map fun figure => (figure.1, .integer figure.2)) = true ↔ _
  rw [allMembersFit_iff, List.forall_mem_map]
  simp only [Document.fits, decide_eq_true_eq]

theorem DrawRequest.isExact (request : DrawRequest) :
    request.figures ≠ [] ∧ (Document.ofFigures request.figures).IsExact := by
  unfold figures
  cases request.seed with
  | none =>
    have distinct : ([↑"count"] : List Text).Nodup := by decide
    refine ⟨List.cons_ne_nil _ _, isExact_ofFigures distinct ?_⟩
    exact List.forall_mem_singleton.mpr ⟨_, rfl⟩
  | some seed =>
    have distinct : ([↑"seed", ↑"count"] : List Text).Nodup := by decide
    refine ⟨List.cons_ne_nil _ _, isExact_ofFigures distinct ?_⟩
    exact List.forall_mem_cons.mpr ⟨⟨_, rfl⟩, List.forall_mem_singleton.mpr ⟨_, rfl⟩⟩

/-- A posted request to draw values is read as the request, if its integers are short. If not, the
body as a whole cannot be read, as the reader of documents meets the digits first. -/
theorem readDraw_body (request : DrawRequest) :
    (request.IsShort → readDraw request.body = .ok request) ∧
      (¬ request.IsShort → readDraw request.body = .error .unreadableBody) := by
  obtain ⟨filled, exact⟩ := request.isExact
  have fits : (Document.ofFigures request.figures).fits deepestNesting = true ↔ request.IsShort :=
    fits_ofFigures 949 request.figures
  have named : request.figures.map (fun figure => (figure.1, Document.integer figure.2)) ≠ [] :=
    mt List.map_eq_nil_iff.mp filled
  unfold readDraw DrawRequest.body
  constructor
  · intro short
    refine (readRequired_compact _ named exact).trans ?_
    refine (if_pos (fits.mpr short)).trans ?_
    obtain ⟨seed, count⟩ := request
    cases seed with
    | none => rfl
    | some seed => rfl
  · intro long
    refine (readRequired_compact _ named exact).trans ?_
    exact if_neg (mt fits.mp long)

/-- The document of a request to sort integers. -/
def SortRequest.document (request : SortRequest) : Document :=
  .object [("values", .ofIntegers request.values), ("algorithm", .text request.algorithm)]

/-- What is posted for a request to sort integers. -/
def SortRequest.body (request : SortRequest) : Text :=
  request.document.compact

/-- A list of integers fits when these are short. -/
theorem allFit_integers (levels : Nat) (numbers : List Int) :
    allFit levels (numbers.map .integer) = true ↔ ∀ number ∈ numbers, IsShort number := by
  rw [allFit_iff, List.forall_mem_map]
  simp only [Document.fits, decide_eq_true_eq]

/-- A list of integers is read as these. -/
theorem readIntegers_ofIntegers (path : List Step) (numbers : List Int) :
    readIntegers path (.ofIntegers numbers) = .ok numbers := by
  suffices read : ∀ first, Checked.list (((numbers.map Document.integer).zipIdx first).map
      fun placed => readInteger (path ++ [.element placed.2]) placed.1) = .ok numbers from
    read 0
  intro first
  induction numbers generalizing first with
  | nil => rfl
  | cons number others inductionHypothesis =>
    have rest := inductionHypothesis (first + 1)
    unfold Checked.list at rest ⊢
    rw [List.map_cons, List.zipIdx_cons, List.map_cons, List.foldr_cons, rest]
    rfl

/-- A posted request to sort short integers by an algorithm whose name is a string is read as the
request. -/
theorem readSort_body {request : SortRequest} (short : ∀ number ∈ request.values, IsShort number)
    (plain : request.algorithm.string?.isSome = true) : readSort request.body = .ok request := by
  obtain ⟨numbers, algorithm⟩ := request
  obtain ⟨characters, rfl⟩ := Text.exists_ofChars plain
  have exact : (SortRequest.document ⟨numbers, .ofChars characters⟩).IsExact := by
    have distinct : ([↑"values", ↑"algorithm"] : List Text).Nodup := by decide
    refine .object distinct ?_ ?_
    · exact List.forall_mem_cons.mpr ⟨⟨_, rfl⟩, List.forall_mem_singleton.mpr ⟨_, rfl⟩⟩
    · refine List.forall_mem_cons.mpr ⟨.array ?_, List.forall_mem_singleton.mpr (.text characters)⟩
      simp only [List.forall_mem_map]
      exact fun number _ => .integer number
  have fits : (SortRequest.document ⟨numbers, .ofChars characters⟩).fits deepestNesting = true := by
    have integersFit := (allFit_integers 948 numbers).mpr short
    show ((allFit 948 (numbers.map .integer)) && (true && true)) = true
    rw [integersFit]
    rfl
  unfold readSort SortRequest.body
  refine (readRequired_compact _ (List.cons_ne_nil _ _) exact).trans ((if_pos fits).trans ?_)
  show accepted (((readIntegers [.member "values"] (.ofIntegers numbers)).pair
    (.ok (Text.ofChars characters))).map _) = _
  rw [readIntegers_ofIntegers]
  rfl

/-- A plain integer that is read is short. -/
theorem isShort_of_readPlain {text : List Char} {number : Int}
    (read : Numeral.readPlain text = .ok number) : IsShort number := by
  unfold Numeral.readPlain at read
  dsimp only at read
  generalize (text.head? == some '-') = negative at read
  generalize (if negative = true then text.drop 1 else text) = body at read
  split at read
  case h_1 => cases read
  case h_2 =>
    cases read
    exact Numeral.isShort_of_lt (by decide)
  case h_3 =>
    split at read
    · split at read
      · cases read
      · rename_i few
        split at read
        · cases read
          exact Numeral.isShort_signed (Nat.le_of_not_lt few) _
        · cases read
    · cases read

/-- An integer that is read leniently is short, whatever was taken off the text before. -/
theorem isShort_of_readLenient {text : Text} {number : Int}
    (read : Numeral.readLenient text = .ok number) : IsShort number := by
  unfold Numeral.readLenient at read
  split at read
  · split at read
    · rename_i tidied
      cases read
      obtain ⟨body, _, again⟩ := Option.map_eq_some_iff.mp tidied
      exact isShort_of_readPlain again
    · cases read
  · exact isShort_of_readPlain read

/-- The integer of a document that fits is short. It may come from an integer, from a text that is
read as one or from a number without a fraction, and is short in each case for its own reason. -/
theorem isShort_of_integerOf {levels : Nat} {document : Document}
    (fits : document.fits levels = true) {number : Int}
    (read : integerOf document = .ok number) : IsShort number := by
  cases document with
  | integer number =>
    cases read
    simpa [Document.fits] using fits
  | boolean truth =>
    cases read
    cases truth <;> exact Numeral.isShort_of_lt (by decide)
  | real given =>
    simp only [integerOf, integerOfReal] at read
    split at read
    · cases read
    · cases read
    · split at read
      · cases read
      · split at read
        · rename_i inRange
          cases read
          simp only [isInRange, Bool.and_eq_true, decide_eq_true_eq] at inRange
          exact Numeral.isShort_of_lt (by omega)
        · cases read
  | text content =>
    simp only [integerOf, integerOfText] at read
    split at read
    · rename_i lenient
      cases read
      exact isShort_of_readLenient lenient
    · cases read
    · cases read
  | null => cases read
  | array elements => cases read
  | object members => cases read

/-- The document of a body that is read fits. -/
theorem fits_of_readBody {body : Text} {document : Document}
    (read : readBody body = .ok (some document)) : document.fits deepestNesting = true := by
  unfold readBody at read
  split at read
  · cases read
  · split at read
    · cases read
    · split at read
      · rename_i found
        cases read
        exact fits_of_readWithin found
      · cases read
      · cases read

/-- A required body that is read is an object, and all its members fit. -/
theorem exists_object_of_readRequired {α : Type} {read : Document → Checked α} {body : Text}
    {content : α} (given : readRequired read body = .ok content) :
    ∃ members, (∀ member ∈ members, member.2.fits (deepestNesting - 1) = true) ∧
      read (.object members) = .ok content := by
  unfold readRequired at given
  split at given
  · cases given
  · cases given
  · rename_i document found
    cases document with
    | object members =>
      refine ⟨members, allMembersFit_iff.mp (fits_of_readBody found), ?_⟩
      simp only [readObject, accepted] at given
      cases checked : read (.object members) with
      | error objections =>
        rw [checked] at given
        cases given
      | ok read =>
        rw [checked] at given
        exact congrArg Except.ok (Except.ok.inj given)
    | _ => cases given

/-- What is made of a checked part was made of an accepted one. -/
theorem Checked.exists_of_map {α β : Type} {checked : Checked α} {make : α → β} {made : β}
    (mapped : checked.map make = .ok made) :
    ∃ content, checked = .ok content ∧ make content = made := by
  cases checked with
  | error objections => cases mapped
  | ok content => exact ⟨content, rfl, Except.ok.inj mapped⟩

/-- Two parts are accepted together when both are. -/
theorem Checked.pair_eq_ok_iff {α β : Type} {first : Checked α} {second : Checked β} {a : α}
    {b : β} : first.pair second = .ok (a, b) ↔ first = .ok a ∧ second = .ok b := by
  cases first <;> cases second <;> simp [Checked.pair]

/-- What is accepted of a list of parts was accepted of one of them. -/
theorem Checked.mem_of_list {α : Type} {parts : List (Checked α)} {contents : List α}
    (checked : Checked.list parts = .ok contents) :
    ∀ content ∈ contents, Except.ok content ∈ parts := by
  induction parts generalizing contents with
  | nil =>
    cases checked
    simp
  | cons part rest inductionHypothesis =>
    obtain ⟨⟨first, others⟩, paired, rfl⟩ := exists_of_map checked
    obtain ⟨firstChecked, othersChecked⟩ := pair_eq_ok_iff.mp paired
    rw [firstChecked]
    intro content member
    obtain rfl | later := List.mem_cons.mp member
    · exact List.mem_cons_self
    · exact List.mem_cons_of_mem _ (inductionHypothesis othersChecked content later)

/-- A field that is read has been read from the member of its name, if there is one, and otherwise
is what stands for an absent one. -/
theorem field_eq_ok {α : Type} {name : Text} {absent : Checked α}
    {read : List Step → Document → Checked α} {members : List (Text × Document)} {content : α}
    (given : field name absent read (.object members) = .ok content) :
    absent = .ok content ∨
      ∃ member ∈ members, read [.member name] member.2 = .ok content := by
  unfold field at given
  split at given
  · rename_i found
    obtain ⟨before, after, listed, _⟩ := List.lookup_eq_some_iff.mp found
    refine Or.inr ⟨(name, _), ?_, given⟩
    rw [← List.mem_reverse, listed]
    simp
  · exact Or.inl given

/-- An integer field that is read from a document that fits is short. -/
theorem isShort_of_readInteger {levels : Nat} {document : Document}
    (fits : document.fits levels = true) {path : List Step} {number : Int}
    (read : readInteger path document = .ok number) : IsShort number := by
  unfold readInteger at read
  split at read
  · rename_i found
    cases read
    exact isShort_of_integerOf fits found
  · cases read

theorem isShort_of_readIntegers {levels : Nat} {document : Document}
    (fits : document.fits (levels + 1) = true) {path : List Step} {numbers : List Int}
    (read : readIntegers path document = .ok numbers) : ∀ number ∈ numbers, IsShort number := by
  cases document with
  | array elements =>
    intro number member
    obtain ⟨⟨element, index⟩, placed, found⟩ :=
      List.mem_map.mp (Checked.mem_of_list read number member)
    have held : element ∈ elements := List.fst_mem_of_mem_zipIdx placed
    exact isShort_of_readInteger (allFit_iff.mp fits element held) found
  | _ => cases read

/-- However a request to draw values is posted, its number is short. A refusal that names it can
therefore always be written. -/
theorem isShort_of_readDraw {body : Text} {request : DrawRequest}
    (read : readDraw body = .ok request) : IsShort request.count := by
  obtain ⟨members, fit, checked⟩ := exists_object_of_readRequired read
  obtain ⟨⟨seed, count⟩, paired, rfl⟩ := Checked.exists_of_map checked
  show IsShort count
  obtain absent | ⟨member, held, found⟩ := field_eq_ok (Checked.pair_eq_ok_iff.mp paired).2
  · cases absent
    exact Numeral.isShort_of_lt (by decide)
  · exact isShort_of_readInteger (fit member held) found

/-- However a request to sort is posted, its integers are short. -/
theorem isShort_of_readSort {body : Text} {request : SortRequest}
    (read : readSort body = .ok request) : ∀ number ∈ request.values, IsShort number := by
  obtain ⟨members, fit, checked⟩ := exists_object_of_readRequired read
  obtain ⟨⟨values, algorithm⟩, paired, rfl⟩ := Checked.exists_of_map checked
  obtain absent | ⟨member, held, found⟩ := field_eq_ok (Checked.pair_eq_ok_iff.mp paired).1
  · cases absent
  · exact isShort_of_readIntegers (fit member held) found

end Service

end SortBench
