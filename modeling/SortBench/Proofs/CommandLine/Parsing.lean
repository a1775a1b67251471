import Mathlib.Data.List.TakeWhile
import SortBench.CommandLine.Parsing
import SortBench.Proofs.Numeral.ReadBack

/-!
# Reading arguments by a grammar

What the reading of arguments does, one step at a time: the roles of arguments, the tokens that they
become, what each kind of positional parameter takes of plain tokens, and how reading goes on. An
integer in decimal is a plain argument, negative or not, wherever no parameter has a name with a
digit after its hyphen.
-/

namespace SortBench.CommandLine

open Text (Symbol)
open Numeral (decimal)

variable {σ : Type}

/-- A plain argument. -/
def Token.ofPlain (text : Text) : Token σ :=
  ⟨text, .plain⟩

/-- A summary that can be broken between its parts can be written on any screen. Whether it can be
broken does not depend on the width, so it is tested once and holds for all. -/
theorem isWritable_of_isBreakable {named positional : List Text}
    (namedBreakable : Usage.isBreakable (Usage.tidied named) = true)
    (positionalBreakable : Usage.isBreakable (Usage.tidied positional) = true) (width : Nat)
    (program : String) : Usage.isWritable width program named positional = true := by
  unfold Usage.isWritable
  rw [namedBreakable, positionalBreakable]
  simp

/-- An ASCII digit is a decimal digit. -/
theorem isDecimalDigit_of_isDigit {c : Char} (digit : c.isDigit = true) :
    Text.isDecimalDigit c = true := by
  have each : ∀ code < 0x3A, 0x30 ≤ code → Text.isDecimalDigit (Char.ofNat code) = true := by
    decide
  simp only [Char.isDigit, Bool.and_eq_true, decide_eq_true_eq, ge_iff_le,
    UInt32.le_iff_toNat_le] at digit
  have bounds : 0x30 ≤ c.toNat ∧ c.toNat ≤ 0x39 := digit
  simpa using each c.toNat (by omega) bounds.1

/-- A minus sign with digits is a negative number. -/
theorem isNegativeNumber_of_digits {digits : List Char} (filled : digits ≠ [])
    (each : ∀ c ∈ digits, c.isDigit = true) :
    isNegativeNumber (Text.ofChars ('-' :: digits)) = true := by
  have decimal : ∀ c ∈ digits, Text.isDecimalDigit c = true :=
    fun c member => isDecimalDigit_of_isDigit (each c member)
  have noLineEnd : (digits.getLast? == some '\n') = false := by
    rw [beq_eq_false_iff_ne]
    intro last
    cases each '\n' (List.mem_of_getLast? last)
  have whole : digits.takeWhile Text.isDecimalDigit = digits :=
    List.takeWhile_eq_self_iff.mpr decimal
  have rest : digits.dropWhile Text.isDecimalDigit = [] := List.dropWhile_eq_nil_iff.mpr decimal
  unfold isNegativeNumber
  rw [Text.legible_ofChars]
  simp only [noLineEnd, Bool.false_eq_true, if_false, whole, rest]
  simpa using filled

/-- Whether a text has a digit after its first symbol. The first symbol of a name is a hyphen. -/
def hasDigit (text : Text) : Bool :=
  match text.symbols with
  | _ :: second :: _ => second.isIn Char.isDigit
  | _ => false

namespace Grammar

variable {grammar : Grammar σ}

/-- What does not begin with a hyphen is plain, whatever the names of the grammar are. -/
theorem role_of_noHyphen {text : Text} (noHyphen : text.symbols.head? ≠ some (.character '-')) :
    grammar.role text = .ok .plain := by
  unfold role
  split
  case h_1 second rest begun =>
    rw [begun] at noHyphen
    exact absurd rfl noHyphen
  case h_2 => rfl

/-- No name of a grammar has a digit after its hyphen. Where this is so, negative numbers cannot be
mistaken for names. -/
def NamesLetters (grammar : Grammar σ) : Prop :=
  ∀ entry ∈ grammar.entries, hasDigit entry.1 = false

/-- The names of a grammar can be tried one by one. -/
theorem namesLetters_of_all
    (all : (grammar.entries.all fun entry => !hasDigit entry.1) = true) :
    grammar.NamesLetters := by
  intro entry member
  simpa using List.all_eq_true.mp all entry member

/-- A text without an equals sign is no assignment: all of it is the name, and no value is
attached. -/
theorem splitAssignment_of_notMem {text : Text} (unassigned : .character '=' ∉ text.symbols) :
    splitAssignment text = (text, .nothing) := by
  have all : text.symbols.takeWhile (fun c => c != .character '=') = text.symbols := by
    rw [List.takeWhile_eq_self_iff]
    rintro c member
    rw [bne_iff_ne]
    rintro rfl
    exact unassigned member
  unfold splitAssignment
  simp only [all, List.drop_length]

/-- A minus sign with digits is plain where no name has a digit. Names are matched by what they
begin with, so it is not enough that no name is equal to the number. -/
theorem role_of_digits (letters : grammar.NamesLetters) {digits : List Char} (filled : digits ≠ [])
    (each : ∀ c ∈ digits, c.isDigit = true) :
    grammar.role (Text.ofChars ('-' :: digits)) = .ok .plain := by
  have negative := isNegativeNumber_of_digits filled each
  have unassigned : .character '=' ∉ (Text.ofChars ('-' :: digits)).symbols := by
    simp only [Text.ofChars, List.map_cons, List.mem_cons, not_or]
    refine ⟨by decide, ?_⟩
    rintro member
    obtain ⟨c, found, same⟩ := List.mem_map.mp member
    cases same
    cases each '=' found
  obtain ⟨digit, rest, rfl⟩ := List.exists_cons_of_ne_nil filled
  have first : digit.isDigit = true := each digit List.mem_cons_self
  have noHyphen : digit ≠ '-' := by
    rintro rfl
    cases first
  -- No name has these two symbols in front, so none is the argument, begins with it or begins it.
  have unnamed : ∀ entry ∈ grammar.entries, ∀ value,
      entry.1.symbols ≠ .character '-' :: .character digit :: value := by
    intro entry member value same
    have noDigit := letters entry member
    rw [hasDigit, same] at noDigit
    exact absurd (first.symm.trans noDigit) (by simp)
  have notListed : grammar.entries.lookup (Text.ofChars ('-' :: digit :: rest)) = none := by
    rw [List.lookup_eq_none_iff]
    intro entry member
    rw [bne_iff_ne]
    intro same
    exact unnamed entry member _ (congrArg Text.symbols same.symm)
  have noCandidates : grammar.candidates (Text.ofChars ('-' :: digit :: rest)) = [] := by
    unfold candidates
    split
    case h_1 begun =>
      cases begun
      exact absurd rfl noHyphen
    case h_2 letter value _ begun =>
      cases begun
      rw [List.filterMap_eq_nil_iff]
      rintro ⟨name, named⟩ member
      have short : (name == (⟨['-', digit]⟩ : Text)) = false := by
        rw [beq_eq_false_iff_ne]
        rintro rfl
        exact unnamed _ member [] rfl
      have long : name.beginsWith (Text.ofChars ('-' :: digit :: rest)) = false := by
        rw [Bool.eq_false_iff]
        intro begins
        obtain ⟨more, same⟩ := List.isPrefixOf_iff_prefix.mp begins
        exact unnamed _ member _ same.symm
      simp only [short, long, Bool.false_eq_true, if_false]
    case h_3 => rfl
  have begun : (Text.ofChars ('-' :: digit :: rest)).symbols =
      .character '-' :: .character digit :: rest.map Symbol.character := rfl
  unfold role
  rw [begun]
  dsimp only
  rw [notListed, splitAssignment_of_notMem unassigned, noCandidates, negative]
  rfl

/-- An integer is plain where no name has a digit. -/
theorem role_decimal (letters : grammar.NamesLetters) (number : Int) :
    grammar.role (decimal number) = .ok .plain := by
  have digits := Numeral.isDigit_decimalDigits number.natAbs
  have filled : Numeral.decimalDigits number.natAbs ≠ [] := Nat.toDigits_ne_nil
  unfold decimal Numeral.decimalChars
  rw [Text.ofString_ofList]
  split
  · exact role_of_digits letters filled digits
  · apply role_of_noHyphen
    intro begun
    obtain ⟨digit, rest, written⟩ := List.exists_cons_of_ne_nil filled
    rw [written] at begun digits
    cases begun
    cases digits '-' List.mem_cons_self

/-- Arguments that have roles are as many tokens, with the same texts. What follows the separator is
plain whatever it looks like, so the roles are needed only up to there. -/
theorem exists_tokens {arguments : List Text}
    (roles : ∀ text ∈ arguments, ∃ role, grammar.role text = .ok role) :
    ∃ tokens, grammar.tokens arguments = .ok tokens ∧ tokens.map Token.text = arguments := by
  induction arguments with
  | nil => exact ⟨[], rfl, rfl⟩
  | cons text rest inductionHypothesis =>
    obtain ⟨⟨role, found⟩, others⟩ := List.forall_mem_cons.mp roles
    obtain ⟨tokens, read, texts⟩ := inductionHypothesis others
    rw [Grammar.tokens]
    by_cases separates : (text == separator) = true
    · rw [if_pos separates]
      refine ⟨_, rfl, ?_⟩
      simp [Function.comp_def]
    · rw [if_neg separates, found, read]
      exact ⟨_, rfl, by rw [List.map_cons, texts]⟩

/-- Plain arguments are plain tokens. -/
theorem tokens_plain {arguments : List Text}
    (plain : ∀ text ∈ arguments, text ≠ separator ∧ grammar.role text = .ok .plain) :
    grammar.tokens arguments = .ok (arguments.map Token.ofPlain) := by
  induction arguments with
  | nil => rfl
  | cons text rest inductionHypothesis =>
    obtain ⟨⟨apart, role⟩, others⟩ := List.forall_mem_cons.mp plain
    rw [Grammar.tokens, if_neg (by simpa using apart), role, inductionHypothesis others]
    rfl

theorem ne_separator {text : Text} (noHyphen : text.symbols.head? ≠ some (.character '-')) :
    text ≠ separator := by
  rintro rfl
  exact noHyphen rfl

/-- A refusal at a plain token ends reading; what stands behind it is not looked at. -/
theorem walk_refused {text : Text} {tokens : List (Token σ)} {progress : Progress σ} {stop : Stop}
    (served : grammar.serve progress.waiting (.ofPlain text :: tokens) progress.state =
      .error stop) :
    grammar.walk (.ofPlain text :: tokens) progress = .error stop := by
  have role : (Token.ofPlain text : Token σ).role = .plain := rfl
  rw [walk, role]
  dsimp only
  rw [served]

/-- Where parameters take a plain token, reading goes on after what they took. They may take tokens
behind it as well, which are then skipped. -/
theorem walk_served {text : Text} {tokens : List (Token σ)} {progress : Progress σ} {turn : Turn σ}
    (served : grammar.serve progress.waiting (.ofPlain text :: tokens) progress.state = .ok turn)
    (some : turn.taken ≠ 0) :
    grammar.walk (.ofPlain text :: tokens) progress =
      grammar.walk (tokens.drop (turn.taken - 1))
        { progress with waiting := turn.waiting, state := turn.state } := by
  have role : (Token.ofPlain text : Token σ).role = .plain := rfl
  rw [walk, role]
  dsimp only
  rw [served]
  dsimp only
  rw [if_neg some]

/-- A parameter that takes everything is given a plain argument and all arguments after it, also
those that begin with hyphens. -/
theorem serve_remainder {positional : Positional σ} {act : Text → List Text → σ → Except Refusal σ}
    (share : positional.share = .remainder act) (name : Text) (tokens : List (Token σ))
    (state : σ) :
    grammar.serve [positional] (.ofPlain name :: tokens) state =
      match act name (tokens.map Token.text) state with
      | .error refusal => .error (grammar.complain positional.name refusal)
      | .ok state => .ok ⟨[], tokens.length + 1, state⟩ := by
  have extent : positional.share.extent (.ofPlain name :: tokens) = some (tokens.length + 1) := by
    rw [share]
    rfl
  have acted : (Share.remainder act).act ((Token.ofPlain name :: tokens).map Token.text) state =
      act name (tokens.map Token.text) state := rfl
  rw [serve, extent]
  dsimp only
  rw [List.take_succ_cons, List.take_length, share, acted]
  cases act name (tokens.map Token.text) state with
  | error refusal => rfl
  | ok state => rfl

/-- Where every argument has a role and the only parameter takes everything, reading is what this
makes of the arguments. -/
theorem parse_remainder {positional : Positional σ} {act : Text → List Text → σ → Except Refusal σ}
    (only : grammar.positional = [positional]) (share : positional.share = .remainder act)
    {name : Text} {arguments : List Text} (noHyphen : name.symbols.head? ≠ some (.character '-'))
    (roles : ∀ text ∈ arguments, ∃ role, grammar.role text = .ok role) (start : σ) :
    grammar.parse start (name :: arguments) =
      match act name arguments start with
      | .error refusal => .error (grammar.complain positional.name refusal)
      | .ok state => .ok (state, []) := by
  obtain ⟨tokens, read, texts⟩ := exists_tokens roles
  have all : grammar.tokens (name :: arguments) = .ok (.ofPlain name :: tokens) := by
    rw [Grammar.tokens, if_neg (by simpa using ne_separator noHyphen), role_of_noHyphen noHyphen,
      read]
    rfl
  have served : grammar.serve grammar.positional (.ofPlain name :: tokens) start = _ :=
    only ▸ serve_remainder share name tokens start
  rw [texts] at served
  unfold parse
  rw [all]
  dsimp only
  cases acted : act name arguments start with
  | error refusal =>
    rw [acted] at served
    rw [walk_refused served]
  | ok state =>
    rw [acted] at served
    rw [walk_served served (Nat.succ_ne_zero _)]
    dsimp only
    rw [Nat.add_sub_cancel, List.drop_length, walk]
    rfl

/-- A parameter that takes one argument is given a plain one; the next parameters are given the
plain arguments after it. -/
theorem serve_one {positional : Positional σ} {act : Text → σ → Except Refusal σ}
    (share : positional.share = .one act) (waiting : List (Positional σ)) {text : Text}
    (apart : text ≠ separator) (texts : List Text) (state : σ) :
    grammar.serve (positional :: waiting) (.ofPlain text :: texts.map Token.ofPlain) state =
      match act text state with
      | .error refusal => .error (grammar.complain positional.name refusal)
      | .ok state =>
        (grammar.serve waiting (texts.map Token.ofPlain) state).map fun turn =>
          { turn with taken := 1 + turn.taken } := by
  have extent : positional.share.extent (.ofPlain text :: texts.map Token.ofPlain) = some 1 := by
    rw [share]
    cases texts with
    | nil => rfl
    | cons next others => rfl
  have acted : (Share.one act).act [text] state = act text state := by
    unfold Share.act
    rw [List.erase_of_not_mem (by simpa using apart.symm)]
  rw [serve, extent]
  dsimp only
  have first : (Token.ofPlain text : Token σ).text = text := rfl
  rw [List.take_succ_cons, List.take_zero, List.drop_one, List.tail_cons, List.map_singleton, first,
    share, acted]
  cases act text state with
  | error refusal => rfl
  | ok state =>
    dsimp only
    cases grammar.serve waiting (texts.map Token.ofPlain) state with
    | error stop => rfl
    | ok turn => rfl

/-- A parameter that takes several arguments is given all plain ones. -/
theorem serve_many {positional : Positional σ} {act : List Text → σ → Except Refusal σ}
    (share : positional.share = .many act) {texts : List Text} (apart : separator ∉ texts)
    (state : σ) :
    grammar.serve [positional] (texts.map Token.ofPlain) state =
      match act texts state with
      | .error refusal => .error (grammar.complain positional.name refusal)
      | .ok state => .ok ⟨[], texts.length, state⟩ := by
  have extent : positional.share.extent (texts.map Token.ofPlain) = some texts.length := by
    have all : (texts.map (Token.ofPlain : Text → Token σ)).takeWhile
        (fun token => !token.isName) = texts.map Token.ofPlain := by
      rw [List.takeWhile_eq_self_iff, List.forall_mem_map]
      exact fun _ _ => rfl
    rw [share, Share.extent]
    simp only [all, List.length_map]
  have acted : (Share.many act).act texts state = act texts state := by
    unfold Share.act
    rw [List.erase_of_not_mem apart]
  have texts_ofPlain : ((texts.map (Token.ofPlain : Text → Token σ)).take texts.length).map
      Token.text = texts := by
    rw [List.take_of_length_le (by simp), List.map_map]
    exact List.map_id _
  rw [serve, extent]
  dsimp only
  rw [texts_ofPlain, share, acted]
  cases act texts state with
  | error refusal => rfl
  | ok state => rfl

/-- An argument that acts on the state alone: it takes no other argument, and reading goes on after
it unless its parameter refuses. Such arguments can be read one after another without regard to what
surrounds them. -/
def Does (grammar : Grammar σ) (text : Text) (act : σ → Except Refusal σ) : Prop :=
  text ≠ separator ∧ ∃ role title, grammar.role text = .ok role ∧
    ∀ tokens progress, grammar.walk (⟨text, role⟩ :: tokens) progress =
      match act progress.state with
      | .error refusal => .error (grammar.complain title refusal)
      | .ok state => grammar.walk tokens { progress with state }

/-- An attached text other than the separator is a value. -/
theorem attachedValue_of_ne {value : Text} (valued : value ≠ separator) :
    attachedValue value.symbols = some value := by
  have differs : value.symbols ≠ separator.symbols := fun same => valued (congrArg Text.mk same)
  exact if_neg (by simpa using differs)

/-- A value that is attached to a name is what the parameter is given; the separator is none. -/
theorem does_of_attached {text name value : Text} {named : Named σ}
    {act : Option Text → σ → Except Refusal σ} (apart : text ≠ separator)
    (role : grammar.role text = .ok (.mention ⟨name, named, .text value⟩))
    (effect : named.effect = .valued act) (filled : value.symbols ≠ []) :
    grammar.Does text (act (attachedValue value.symbols)) := by
  refine ⟨apart, _, named.title, role, ?_⟩
  intro tokens progress
  obtain ⟨symbol, symbols, begun⟩ := List.exists_cons_of_ne_nil filled
  have acts : grammar.acts ⟨name, named, .text value⟩ tokens =
      .ok ⟨[⟨named, act (attachedValue value.symbols)⟩], 0⟩ := by
    show grammar.attached (isShortName name) named tokens value.symbols = _
    rw [begun, attached, effect]
  rw [walk]
  dsimp only
  rw [acts]
  dsimp only [perform, List.drop_zero]
  cases act (attachedValue value.symbols) progress.state with
  | error refusal => rfl
  | ok state => rfl

/-- A name of a parameter without a value acts as the parameter does. -/
theorem does_of_plain {text : Text} {named : Named σ} {act : σ → Except Refusal σ}
    (apart : text ≠ separator) (role : grammar.role text = .ok (.mention ⟨text, named, .nothing⟩))
    (effect : named.effect = .plain act) : grammar.Does text act := by
  refine ⟨apart, _, named.title, role, ?_⟩
  intro tokens progress
  have acts : grammar.acts ⟨text, named, .nothing⟩ tokens = .ok ⟨[⟨named, act⟩], 0⟩ := by
    show grammar.unattached named tokens = _
    rw [unattached, effect]
  rw [walk]
  dsimp only
  rw [acts]
  dsimp only [perform, List.drop_zero]
  cases act progress.state with
  | error refusal => rfl
  | ok state => rfl

/-- Arguments that act on the state alone act one after another; the first refusal ends reading.
Reading them is thereby a fold, and what is left to know of each argument is the function that it
stands for.

Proof: by induction on the arguments, with the progress left free. Each turn of the walk takes one
token, and the state is the only part of the progress that it changes. -/
theorem walk_acts {arguments : List Text} {acts : List (σ → Except Refusal σ)}
    (does : List.Forall₂ grammar.Does arguments acts) :
    ∃ tokens, grammar.tokens arguments = .ok tokens ∧
      ∀ progress : Progress σ,
        (∀ state, acts.foldlM (fun state act => act state) progress.state = .ok state →
            grammar.walk tokens progress = grammar.walk [] { progress with state }) ∧
          ∀ refusal, acts.foldlM (fun state act => act state) progress.state = .error refusal →
            ∃ title, grammar.walk tokens progress = .error (grammar.complain title refusal) := by
  induction does with
  | nil =>
    refine ⟨[], rfl, fun progress => ⟨?_, ?_⟩⟩
    · rintro state ⟨⟩
      rfl
    · rintro refusal ⟨⟩
  | @cons text act arguments acts first others inductionHypothesis =>
    obtain ⟨apart, role, title, found, walked⟩ := first
    obtain ⟨tokens, read, rest⟩ := inductionHypothesis
    refine ⟨⟨text, role⟩ :: tokens, ?_, ?_⟩
    · rw [Grammar.tokens, if_neg (by simpa using apart), found, read]
    · intro progress
      rw [walked, List.foldlM_cons]
      cases acted : act progress.state with
      | error refusal =>
        constructor
        · rintro state ⟨⟩
        · rintro refusal ⟨⟩
          exact ⟨title, rfl⟩
      | ok state => exact rest { progress with state }

/-- Where there are no positional parameters, reading arguments that act on the state alone is what
they make of it. -/
theorem parse_acts (none : grammar.positional = []) {arguments : List Text}
    {acts : List (σ → Except Refusal σ)} (does : List.Forall₂ grammar.Does arguments acts)
    (start : σ) :
    (∀ state, acts.foldlM (fun state act => act state) start = .ok state →
        grammar.parse start arguments = .ok (state, [])) ∧
      ∀ refusal, acts.foldlM (fun state act => act state) start = .error refusal →
        ∃ title, grammar.parse start arguments = .error (grammar.complain title refusal) := by
  obtain ⟨tokens, read, walked⟩ := walk_acts does
  obtain ⟨accepted, refused⟩ := walked ⟨[], start, []⟩
  unfold parse
  rw [read, none]
  constructor
  · intro state folded
    dsimp only
    rw [accepted state folded, walk]
    rfl
  · intro refusal folded
    obtain ⟨title, stopped⟩ := refused refusal folded
    dsimp only
    rw [stopped]
    exact ⟨title, rfl⟩

/-- A refused value is refused with a line, where there is a summary. -/
theorem complain_value
    (writable : Usage.isWritable grammar.width grammar.program
      (grammar.named.map Named.placeholder)
      (grammar.positional.map Positional.placeholder) = true) (title message : Text) :
    ∃ line, grammar.complain title (.value message) = .refused line := by
  unfold complain refuse summarise
  rw [writable]
  exact ⟨_, rfl⟩

end Grammar

end SortBench.CommandLine
