import SortBench.CommandLine.Commands
import SortBench.Proofs.CommandLine.Parsing
import SortBench.Proofs.Digest.Conversion

/-!
# Arguments of the commands that draw and sort

How the command line reads a command that is followed by integers in decimal. The command takes
everything after it, and its own parameters then take the integers where they stand or are attached
to a name. A refusal always has its line: the summary that stands before it can be broken, however
narrow the screen.
-/

namespace SortBench.CommandLine

open Numeral (IsShort decimal)

variable {σ : Type}

/-- What the parameters of a command make of all its arguments is the request, and their refusal is
the refusal of the whole. No argument may mean a parameter of the request itself, or it would be
taken away before the command is reached. -/
theorem Request.ofArguments_command {width : Nat} {algorithms : List Text} {name : Text}
    {arguments : List Text} (noHyphen : name.symbols.head? ≠ some (.character '-'))
    (roles : ∀ text ∈ arguments, ∃ role, (grammar width algorithms).role text = .ok role) :
    (∀ command, readCommand width algorithms name arguments = .ok (command, []) →
        Request.ofArguments width algorithms (name :: arguments) = .ok ⟨none, none, command⟩) ∧
      ∀ stop, readCommand width algorithms name arguments = .error (.stop stop) →
        Request.ofArguments width algorithms (name :: arguments) = .error stop := by
  have parsed := Grammar.parse_remainder
    (show (grammar width algorithms).positional = [_] from rfl) rfl noHyphen roles {}
  unfold Request.ofArguments
  constructor
  · intro command read
    simp only [parsed, read]
    rfl
  · intro stop refused
    simp only [parsed, refused]
    rfl

/-- The arguments that ask for integers to be sorted. -/
def sortArguments (algorithm : Text) (numbers : List Int) : List Text :=
  "sort" :: algorithm :: numbers.map fun number => (decimal number : Text)

/-- Where integers in decimal are read if they are short, a number is accepted or refused by that.
It is put in general because two readers are asked: one for plain integers, one for literals. -/
theorem readNumber_decimal (kind : String) {read : Text → Except Numeral.Misread Int}
    {number : Int} {long : Numeral.Misread}
    (reads : read (decimal number) = if IsShort number then .ok number else .error long) :
    (IsShort number → readNumber kind read (decimal number) = .ok number) ∧
      (¬ IsShort number →
        ∃ message, readNumber kind read (decimal number) = .error (.value message)) := by
  unfold readNumber
  rw [reads]
  by_cases short : IsShort number
  · rw [if_pos short]
    exact ⟨fun _ => rfl, fun long => absurd short long⟩
  · rw [if_neg short]
    exact ⟨fun again => absurd again short, fun _ => ⟨_, rfl⟩⟩

/-- Short integers in decimal are read as they are. -/
theorem mapM_readInteger {numbers : List Int} (short : ∀ number ∈ numbers, IsShort number) :
    (numbers.map fun number => (decimal number : Text)).mapM readInteger = .ok numbers := by
  rw [mapM_eq_ok_iff, List.forall₂_map_left_iff, List.forall₂_same]
  intro number member
  exact (readNumber_decimal "int" (Numeral.readDecimal_decimal number)).1 (short number member)

theorem sortGrammar_namesLetters (width : Nat) (algorithms : List Text) :
    (sortGrammar width algorithms).NamesLetters :=
  Grammar.namesLetters_of_all rfl

/-- No name of a request has a digit. A minus sign with digits can therefore not be meant for a
name, and negative integers are arguments like others. -/
theorem grammar_namesLetters (width : Nat) (algorithms : List Text) :
    (grammar width algorithms).NamesLetters :=
  Grammar.namesLetters_of_all rfl

/-- An integer in decimal is not the separator. -/
theorem decimal_ne_separator (number : Int) : (decimal number : Text) ≠ separator := by
  intro same
  have digits := Numeral.isDigit_decimalDigits number.natAbs
  have characters : Numeral.decimalChars number = ['-', '-'] := by
    have legible := congrArg Text.legible same
    unfold decimal at legible
    rw [Text.ofString_ofList, Text.legible_ofChars] at legible
    exact legible
  unfold Numeral.decimalChars at characters
  split at characters
  · rw [(List.cons.inj characters).2] at digits
    cases digits '-' List.mem_cons_self
  · rw [characters] at digits
    cases digits '-' List.mem_cons_self

/-- A text that does not begin with a hyphen, followed by integers, is plain throughout. The
integers may be negative, and then do begin with a hyphen. -/
theorem tokens_integers {grammar : Grammar σ} (letters : grammar.NamesLetters) {text : Text}
    (noHyphen : text.symbols.head? ≠ some (.character '-')) (numbers : List Int) :
    grammar.tokens (text :: numbers.map fun number => (decimal number : Text)) =
      .ok (.ofPlain text :: (numbers.map fun number => (decimal number : Text)).map
        Token.ofPlain) := by
  refine Grammar.tokens_plain (List.forall_mem_cons.mpr
    ⟨⟨Grammar.ne_separator noHyphen, Grammar.role_of_noHyphen noHyphen⟩, ?_⟩)
  rw [List.forall_mem_map]
  intro number _
  exact ⟨decimal_ne_separator number, Grammar.role_decimal letters number⟩

/-- The command that sorts accepts a listed algorithm and short integers, and refuses an algorithm
that is not listed. The name of the algorithm is looked at before the integers. -/
theorem parse_sort (width : Nat) (algorithms : List Text) {algorithm : Text}
    (noHyphen : algorithm.symbols.head? ≠ some (.character '-')) {numbers : List Int}
    (short : ∀ number ∈ numbers, IsShort number) :
    (sortGrammar width algorithms).parse {}
        (algorithm :: numbers.map fun number => (decimal number : Text)) =
      if algorithms.contains algorithm then .ok ({ algorithm, numbers }, [])
      else
        .error ((sortGrammar width algorithms).complain "algorithm"
          (notAmong algorithms algorithm)) := by
  have tokens := tokens_integers (sortGrammar_namesLetters width algorithms) noHyphen numbers
  have apart : separator ∉ numbers.map fun number => (decimal number : Text) := by
    rintro member
    obtain ⟨number, _, same⟩ := List.mem_map.mp member
    exact decimal_ne_separator number same
  unfold Grammar.parse
  rw [tokens]
  dsimp only
  by_cases listed : algorithms.contains algorithm = true
  · rw [if_pos listed]
    have served : (sortGrammar width algorithms).serve (sortGrammar width algorithms).positional
        (.ofPlain algorithm ::
          (numbers.map fun number => (decimal number : Text)).map Token.ofPlain) {} =
        .ok ⟨[], 1 + numbers.length, { algorithm, numbers }⟩ := by
      refine (Grammar.serve_one rfl _ (Grammar.ne_separator noHyphen) _ _).trans ?_
      dsimp only
      rw [if_pos listed]
      refine (congrArg (Except.map _) (Grammar.serve_many rfl apart _)).trans ?_
      dsimp only
      rw [mapM_readInteger short, List.length_map]
      rfl
    have nothing : ((numbers.map fun number => (decimal number : Text)).map
        (Token.ofPlain : Text → Token SortDraft)).drop (1 + numbers.length - 1) = [] := by
      simp
    rw [Grammar.walk_served served (by dsimp only; omega), nothing, Grammar.walk]
    rfl
  · rw [if_neg listed]
    have served : (sortGrammar width algorithms).serve (sortGrammar width algorithms).positional
        (.ofPlain algorithm ::
          (numbers.map fun number => (decimal number : Text)).map Token.ofPlain) {} =
        .error ((sortGrammar width algorithms).complain "algorithm"
          (notAmong algorithms algorithm)) := by
      refine (Grammar.serve_one rfl _ (Grammar.ne_separator noHyphen) _ _).trans ?_
      dsimp only
      rw [if_neg listed]
    rw [Grammar.walk_refused served]

theorem readCommand_sort (width : Nat) (algorithms arguments : List Text) :
    readCommand width algorithms "sort" arguments =
      match (sortGrammar width algorithms).parse {} arguments with
      | .ok (draft, left) => .ok (.sort draft.algorithm draft.numbers, left)
      | .error stop => .error (.stop stop) := by
  unfold readCommand
  rw [Text.string?_ofString]
  simp only [readCommand.read]
  cases (sortGrammar width algorithms).parse {} arguments with
  | error stop => rfl
  | ok parsed => rfl

/-- The names of the built-in algorithms, in order. -/
theorem names_builtIn :
    Registry.builtIn.names = ([↑"bubble", ↑"quick", ↑"quick_iterative"] : List Text) := by
  refine List.mergeSort_of_pairwise ?_
  decide

/-- The summary of the command that sorts can be written on any screen. A refusal begins with this
summary, and there would be none where it could not be written. -/
theorem sortGrammar_isWritable (width : Nat) :
    Usage.isWritable (sortGrammar width Registry.builtIn.names).width
      (sortGrammar width Registry.builtIn.names).program
      ((sortGrammar width Registry.builtIn.names).named.map Named.placeholder)
      ((sortGrammar width Registry.builtIn.names).positional.map Positional.placeholder) =
        true := by
  have named : Usage.isBreakable (Usage.tidied ["[-h]"]) = true := by decide +kernel
  have positional : Usage.isBreakable (Usage.tidied
      [choicesPlaceholder ["bubble", "quick", "quick_iterative"], "[values ...]"]) = true := by
    decide +kernel
  rw [names_builtIn]
  exact isWritable_of_isBreakable named positional _ _

/-- Short integers are asked to be sorted by a built-in algorithm, and refused for any other.
Integers that are not short are left out, as they would be refused for their digits and not for the
algorithm. -/
theorem ofArguments_sort (width : Nat) {algorithm : Text}
    (noHyphen : algorithm.symbols.head? ≠ some (.character '-')) {numbers : List Int}
    (short : ∀ number ∈ numbers, IsShort number) :
    (algorithm ∈ Registry.builtIn.names →
        Request.ofArguments width Registry.builtIn.names (sortArguments algorithm numbers) =
          .ok ⟨none, none, .sort algorithm numbers⟩) ∧
      (algorithm ∉ Registry.builtIn.names →
        ∃ line, Request.ofArguments width Registry.builtIn.names
          (sortArguments algorithm numbers) = .error (.refused line)) := by
  have roles : ∀ text ∈ algorithm :: numbers.map fun number => (decimal number : Text),
      ∃ role, (grammar width Registry.builtIn.names).role text = .ok role := by
    refine List.forall_mem_cons.mpr ⟨⟨_, Grammar.role_of_noHyphen noHyphen⟩, ?_⟩
    rw [List.forall_mem_map]
    exact fun number _ => ⟨_, Grammar.role_decimal (grammar_namesLetters _ _) number⟩
  have asked := Request.ofArguments_command
    (show (↑"sort" : Text).symbols.head? ≠ some (.character '-') by decide) roles
  have parsed := parse_sort width Registry.builtIn.names noHyphen short
  have read := readCommand_sort width Registry.builtIn.names
    (algorithm :: numbers.map fun number => (decimal number : Text))
  constructor
  · intro listed
    rw [parsed, if_pos (List.contains_iff_mem.mpr listed)] at read
    exact asked.1 _ read
  · intro unlisted
    obtain ⟨line, refused⟩ : ∃ line,
        (sortGrammar width Registry.builtIn.names).complain "algorithm"
          (notAmong Registry.builtIn.names algorithm) = .refused line :=
      Grammar.complain_value (sortGrammar_isWritable width) _ _
    rw [parsed, if_neg (mt List.contains_iff_mem.mp unlisted), refused] at read
    exact ⟨line, asked.2 _ read⟩

/-- The arguments that ask for values to be drawn. Each value is attached to its name, so that a
negative one is not taken for a name. -/
def drawArguments (seed : Option Int) (count : Int) (hexadecimal : Bool) : List Text :=
  let seeds : List Text := seed.toList.map fun seed => "--seed=" ++ (decimal seed : Text)
  let counts : List Text := ["--count=" ++ (decimal count : Text)]
  let forms : List Text := if hexadecimal then ["--hex"] else []
  "lfsr" :: (seeds ++ counts ++ forms)

/-- A text that is longer than the separator is not the separator, however it goes on. -/
theorem append_ne_separator {start : Text} (long : separator.length < start.length)
    (value : Text) : start ++ value ≠ separator := by
  intro same
  have length : (start ++ value).length = separator.length := congrArg Text.length same
  have more : (start ++ value).length = start.length + value.length := List.length_append
  omega

/-- Put a seed into the arguments of the command that draws values, as a literal of any base. -/
def DrawDraft.withSeed (value : Text) (draft : DrawDraft) : Except Refusal DrawDraft :=
  (readGiven readSeed (some value)).map fun seed => { draft with seed := some seed }

/-- Put a number of values into them, which is read in decimal only. -/
def DrawDraft.withCount (value : Text) (draft : DrawDraft) : Except Refusal DrawDraft :=
  (readGiven readInteger (some value)).map fun count => { draft with count }

/-- Ask for values in hexadecimal. -/
def DrawDraft.inHexadecimal (draft : DrawDraft) : Except Refusal DrawDraft :=
  .ok { draft with hexadecimal := true }

/-- What is attached to the name of the seed is the seed; the separator is none. -/
theorem does_attachedSeed (width : Nat) {value : Text} (filled : value.symbols ≠ []) :
    (drawGrammar width).Does ("--seed=" ++ value) fun draft =>
      (readGiven readSeed (attachedValue value.symbols)).map fun seed =>
        { draft with seed := some seed } := by
  have differs : "--seed=" ++ value ≠ separator := append_ne_separator (by decide) value
  obtain ⟨named, role, effect⟩ : ∃ named, (drawGrammar width).role ("--seed=" ++ value) =
      .ok (.mention ⟨"--seed", named, .text value⟩) ∧
        named.effect = .valued fun value draft =>
          (readGiven readSeed value).map fun seed => { draft with seed := some seed } :=
    ⟨_, rfl, rfl⟩
  exact Grammar.does_of_attached differs role effect filled

/-- A seed can be attached to its name. -/
theorem does_seed (width : Nat) {value : Text} (filled : value.symbols ≠ [])
    (apart : value ≠ separator) :
    (drawGrammar width).Does ("--seed=" ++ value) (DrawDraft.withSeed value) := by
  have does := does_attachedSeed width filled
  rwa [Grammar.attachedValue_of_ne apart] at does

theorem does_count (width : Nat) {value : Text} (filled : value.symbols ≠ [])
    (apart : value ≠ separator) :
    (drawGrammar width).Does ("--count=" ++ value) (DrawDraft.withCount value) := by
  have differs : "--count=" ++ value ≠ separator := append_ne_separator (by decide) value
  obtain ⟨named, role, effect⟩ : ∃ named, (drawGrammar width).role ("--count=" ++ value) =
      .ok (.mention ⟨"--count", named, .text value⟩) ∧
        named.effect = .valued fun value draft =>
          (readGiven readInteger value).map fun count => { draft with count } :=
    ⟨_, rfl, rfl⟩
  have does := Grammar.does_of_attached differs role effect filled
  rwa [Grammar.attachedValue_of_ne apart] at does

/-- Hexadecimal can be asked for. -/
theorem does_hex (width : Nat) : (drawGrammar width).Does "--hex" DrawDraft.inHexadecimal := by
  obtain ⟨named, role, effect⟩ : ∃ named, (drawGrammar width).role "--hex" =
      .ok (.mention ⟨"--hex", named, .nothing⟩) ∧
        named.effect = .plain DrawDraft.inHexadecimal :=
    ⟨_, rfl, rfl⟩
  exact Grammar.does_of_plain (by decide) role effect

/-- An integer in decimal is not empty. An empty value that is attached to a name is not the same as
none, and would be refused. -/
theorem decimal_ne_nil (number : Int) : (decimal number : Text).symbols ≠ [] := by
  unfold decimal
  rw [Text.ofString_ofList]
  obtain ⟨c, rest, written⟩ := List.exists_cons_of_ne_nil (Numeral.decimalChars_ne_nil number)
  rw [written]
  exact List.cons_ne_nil _ _

/-- A number that is accepted if it is short is put in as it is, and refused otherwise. -/
theorem readGiven_decimal {read : Text → Except Refusal Int} {number : Int}
    (reads : (IsShort number → read (decimal number) = .ok number) ∧
      (¬ IsShort number → ∃ message, read (decimal number) = .error (.value message)))
    (put : GivenNumber → DrawDraft) :
    (IsShort number → (readGiven read (some (decimal number))).map put = .ok (put (some number))) ∧
      (¬ IsShort number → ∃ message,
        (readGiven read (some (decimal number))).map put = .error (.value message)) := by
  obtain ⟨accepted, refused⟩ := reads
  simp only [readGiven]
  constructor
  · intro short
    rw [accepted short]
    rfl
  · intro long
    obtain ⟨message, stopped⟩ := refused long
    rw [stopped]
    exact ⟨message, rfl⟩

/-- A short seed in decimal is put in as it is, and a longer one refused. The literal of an integer
in decimal is that integer, so it makes no difference that seeds may be written in other bases. -/
theorem withSeed_decimal (seed : Int) (draft : DrawDraft) :
    (IsShort seed →
        draft.withSeed (decimal seed) = .ok { draft with seed := some (some seed) }) ∧
      (¬ IsShort seed → ∃ message, draft.withSeed (decimal seed) = .error (.value message)) :=
  readGiven_decimal (readNumber_decimal "<lambda>" (Numeral.readLiteral_decimal seed)) _

theorem withCount_decimal (count : Int) (draft : DrawDraft) :
    (IsShort count → draft.withCount (decimal count) = .ok { draft with count := some count }) ∧
      (¬ IsShort count → ∃ message, draft.withCount (decimal count) = .error (.value message)) :=
  readGiven_decimal (readNumber_decimal "int" (Numeral.readDecimal_decimal count)) _

/-- What the arguments that ask for values do, one after another. -/
def drawActs (seed : Option Int) (count : Int) (hexadecimal : Bool) :
    List (DrawDraft → Except Refusal DrawDraft) :=
  let seeds := seed.toList.map fun seed => DrawDraft.withSeed (decimal seed)
  let counts := [DrawDraft.withCount (decimal count)]
  let forms := if hexadecimal then [DrawDraft.inHexadecimal] else []
  seeds ++ counts ++ forms

/-- They do so by the parameters of the command that draws values. -/
theorem does_drawActs (width : Nat) (seed : Option Int) (count : Int) (hexadecimal : Bool) :
    List.Forall₂ (drawGrammar width).Does (drawArguments seed count hexadecimal).tail
      (drawActs seed count hexadecimal) := by
  have counts := does_count width (decimal_ne_nil count) (decimal_ne_separator count)
  have forms : List.Forall₂ (drawGrammar width).Does (if hexadecimal then [↑"--hex"] else [])
      (if hexadecimal then [DrawDraft.inHexadecimal] else []) := by
    cases hexadecimal with
    | false => exact .nil
    | true => exact .cons (does_hex width) .nil
  cases seed with
  | none => exact .cons counts forms
  | some seed =>
    exact .cons (does_seed width (decimal_ne_nil seed) (decimal_ne_separator seed))
      (.cons counts forms)

/-- Without a seed they fill in the number and the form, if the number is short, and refuse it if
not. -/
theorem foldlM_drawActs_none (count : Int) (hexadecimal : Bool) (seed : Option GivenNumber) :
    (IsShort count →
        (drawActs none count hexadecimal).foldlM (fun draft act => act draft) { seed } =
          .ok { seed, count := some count, hexadecimal }) ∧
      (¬ IsShort count → ∃ message,
        (drawActs none count hexadecimal).foldlM (fun draft act => act draft) { seed } =
          .error (.value message)) := by
  obtain ⟨counted, uncounted⟩ := withCount_decimal count { seed }
  -- Only the first act is taken off here: the digits of the number are not to be evaluated.
  have first : (drawActs none count hexadecimal).foldlM (fun draft act => act draft) { seed } =
      (DrawDraft.withCount (decimal count) { seed }).bind fun draft =>
        (if hexadecimal then [DrawDraft.inHexadecimal] else []).foldlM (fun draft act => act draft)
          draft := List.foldlM_cons
  rw [first]
  constructor
  · intro short
    rw [counted short]
    cases hexadecimal <;> rfl
  · intro long
    obtain ⟨message, refused⟩ := uncounted long
    rw [refused]
    exact ⟨message, rfl⟩

/-- They fill in what is asked for, if the integers are short, and refuse a value if not. Where both
integers are too long it is the seed that is refused, which stands first. -/
theorem foldlM_drawActs (seed : Option Int) (count : Int) (hexadecimal : Bool) :
    ((∀ number ∈ seed, IsShort number) ∧ IsShort count →
        (drawActs seed count hexadecimal).foldlM (fun draft act => act draft) {} =
          .ok { seed := seed.map some, count := some count, hexadecimal }) ∧
      (¬ ((∀ number ∈ seed, IsShort number) ∧ IsShort count) → ∃ message,
        (drawActs seed count hexadecimal).foldlM (fun draft act => act draft) {} =
          .error (.value message)) := by
  cases seed with
  | none => simpa using foldlM_drawActs_none count hexadecimal none
  | some seed =>
    obtain ⟨seeded, unseeded⟩ := withSeed_decimal seed {}
    have first : (drawActs (some seed) count hexadecimal).foldlM (fun draft act => act draft) {} =
        (DrawDraft.withSeed (decimal seed) {}).bind fun draft =>
          (drawActs none count hexadecimal).foldlM (fun draft act => act draft) draft :=
      List.foldlM_cons
    rw [first]
    by_cases short : IsShort seed
    · rw [seeded short]
      simpa [short, Except.bind] using foldlM_drawActs_none count hexadecimal (some (some seed))
    · obtain ⟨message, refused⟩ := unseeded short
      rw [refused]
      simpa [short] using ⟨message, rfl⟩

/-- The summary of the command that draws values can be written on any screen, as that of the other
command can. -/
theorem drawGrammar_isWritable (width : Nat) :
    Usage.isWritable (drawGrammar width).width (drawGrammar width).program
      ((drawGrammar width).named.map Named.placeholder)
      ((drawGrammar width).positional.map Positional.placeholder) = true := by
  have named : Usage.isBreakable
      (Usage.tidied ["[-h]", "[--seed SEED]", "[--count COUNT]", "[--hex]"]) = true := by
    decide +kernel
  have positional : Usage.isBreakable (Usage.tidied []) = true := by decide +kernel
  exact isWritable_of_isBreakable named positional _ _

theorem readCommand_draw (width : Nat) (algorithms arguments : List Text) :
    readCommand width algorithms "lfsr" arguments =
      match (drawGrammar width).parse {} arguments with
      | .ok (draft, left) => .ok (.draw draft.seed draft.count draft.hexadecimal, left)
      | .error stop => .error (.stop stop) := by
  unfold readCommand
  rw [Text.string?_ofString]
  simp only [readCommand.read]
  cases (drawGrammar width).parse {} arguments with
  | error stop => rfl
  | ok parsed => rfl

/-- Where no parameter is meant, an argument is plain or unknown. In either case it has a role, and
reading goes on. -/
theorem exists_role_of_unnamed {grammar : Grammar σ} {text : Text}
    (unnamed : grammar.role text =
      if isNegativeNumber text || text.symbols.contains ' ' then .ok .plain else .ok .unknown) :
    ∃ role, grammar.role text = .ok role := by
  rw [unnamed]
  split
  · exact ⟨_, rfl⟩
  · exact ⟨_, rfl⟩

/-- The arguments that ask for values mean no parameter of a request, though they begin with
hyphens. -/
theorem exists_role_of_drawArguments (width : Nat) (algorithms : List Text) (seed : Option Int)
    (count : Int) (hexadecimal : Bool) :
    ∀ text ∈ (drawArguments seed count hexadecimal).tail,
      ∃ role, (grammar width algorithms).role text = .ok role := by
  have seeded (value : Text) : ∃ role,
      (grammar width algorithms).role ("--seed=" ++ value) = .ok role :=
    exists_role_of_unnamed rfl
  have counted (value : Text) : ∃ role,
      (grammar width algorithms).role ("--count=" ++ value) = .ok role :=
    exists_role_of_unnamed rfl
  have formed : ∃ role, (grammar width algorithms).role "--hex" = .ok role :=
    exists_role_of_unnamed rfl
  intro text member
  simp only [drawArguments, List.tail_cons, List.mem_append, List.mem_map, List.mem_singleton]
    at member
  obtain (⟨seed, _, rfl⟩ | rfl) | asked := member
  · exact seeded _
  · exact counted _
  · cases hexadecimal with
    | false => cases asked
    | true =>
      obtain rfl := List.mem_singleton.mp asked
      exact formed

/-- Values are asked for by what acts on the arguments alone make of them, and refused when one of
the acts refuses a value. This is the whole of the command line as far as its front: nothing about
order, hyphens or roles is left to be shown for a particular request. -/
theorem ofArguments_acts (width : Nat) (algorithms : List Text) {arguments : List Text}
    {acts : List (DrawDraft → Except Refusal DrawDraft)}
    (does : List.Forall₂ (drawGrammar width).Does arguments acts)
    (roles : ∀ text ∈ arguments, ∃ role, (grammar width algorithms).role text = .ok role) :
    (∀ draft : DrawDraft, acts.foldlM (fun draft act => act draft) {} = .ok draft →
        Request.ofArguments width algorithms ("lfsr" :: arguments) =
          .ok ⟨none, none, .draw draft.seed draft.count draft.hexadecimal⟩) ∧
      ∀ message, acts.foldlM (fun draft act => act draft) {} = .error (.value message) →
        ∃ line, Request.ofArguments width algorithms ("lfsr" :: arguments) =
          .error (.refused line) := by
  obtain ⟨accepted, refused⟩ := Grammar.parse_acts rfl does {}
  have asked := Request.ofArguments_command
    (show (↑"lfsr" : Text).symbols.head? ≠ some (.character '-') by decide) roles
  have read := readCommand_draw width algorithms arguments
  constructor
  · intro draft filled
    rw [accepted draft filled] at read
    exact asked.1 _ read
  · intro message stopped
    obtain ⟨title, ended⟩ := refused _ stopped
    obtain ⟨line, complained⟩ :=
      Grammar.complain_value (drawGrammar_isWritable width) title message
    rw [ended, complained] at read
    exact ⟨line, asked.2 _ read⟩

/-- Values are asked for by short integers, and refused for others. The two cases are all, so the
length of the integers alone decides. -/
theorem ofArguments_draw (width : Nat) (algorithms : List Text) (seed : Option Int) (count : Int)
    (hexadecimal : Bool) :
    ((∀ number ∈ seed, IsShort number) ∧ IsShort count →
        Request.ofArguments width algorithms (drawArguments seed count hexadecimal) =
          .ok ⟨none, none, .draw (seed.map some) (some count) hexadecimal⟩) ∧
      (¬ ((∀ number ∈ seed, IsShort number) ∧ IsShort count) → ∃ line,
        Request.ofArguments width algorithms (drawArguments seed count hexadecimal) =
          .error (.refused line)) := by
  obtain ⟨accepted, refused⟩ := ofArguments_acts width algorithms
    (does_drawActs width seed count hexadecimal)
    (exists_role_of_drawArguments width algorithms seed count hexadecimal)
  obtain ⟨filled, unfilled⟩ := foldlM_drawActs seed count hexadecimal
  constructor
  · exact fun short => accepted _ (filled short)
  · intro long
    obtain ⟨message, stopped⟩ := unfilled long
    exact refused message stopped

/-- The command that verifies programs accepts any names that do not begin with a hyphen, and none
at all. -/
theorem parse_verify (width : Nat) {names : List Text}
    (noHyphen : ∀ name ∈ names, name.symbols.head? ≠ some (.character '-')) :
    (verifyGrammar width).parse [] names = .ok (names, []) := by
  have tokens : (verifyGrammar width).tokens names = .ok (names.map Token.ofPlain) :=
    Grammar.tokens_plain fun name member =>
      ⟨Grammar.ne_separator (noHyphen name member), Grammar.role_of_noHyphen (noHyphen name member)⟩
  have apart : separator ∉ names := fun member => Grammar.ne_separator (noHyphen _ member) rfl
  have served : (verifyGrammar width).serve (verifyGrammar width).positional
      (names.map Token.ofPlain) [] = .ok ⟨[], names.length, names⟩ := by
    refine (Grammar.serve_many rfl apart []).trans ?_
    rfl
  unfold Grammar.parse
  rw [tokens]
  dsimp only
  cases names with
  | nil =>
    rw [List.map_nil, Grammar.walk]
    rfl
  | cons name names =>
    have nothing : (names.map (Token.ofPlain : Text → Token (List Text))).drop
        ((name :: names).length - 1) = [] := by simp
    rw [List.map_cons, Grammar.walk_served served (Nat.succ_ne_zero _), nothing, Grammar.walk]
    rfl

theorem readCommand_verify (width : Nat) (algorithms arguments : List Text) :
    readCommand width algorithms "verify" arguments =
      match (verifyGrammar width).parse [] arguments with
      | .ok (names, left) => .ok (.verify names, left)
      | .error stop => .error (.stop stop) := by
  unfold readCommand
  rw [Text.string?_ofString]
  simp only [readCommand.read]
  cases (verifyGrammar width).parse [] arguments with
  | error stop => rfl
  | ok parsed => rfl

/-- Programs are asked to be verified by their names, unless one begins with a hyphen. Whether there
are such programs is not looked at here. -/
theorem ofArguments_verify (width : Nat) (algorithms : List Text) {names : List Text}
    (noHyphen : ∀ name ∈ names, name.symbols.head? ≠ some (.character '-')) :
    Request.ofArguments width algorithms ("verify" :: names) =
      .ok ⟨none, none, .verify names⟩ := by
  have roles : ∀ name ∈ names, ∃ role, (grammar width algorithms).role name = .ok role :=
    fun name member => ⟨.plain, Grammar.role_of_noHyphen (noHyphen name member)⟩
  have asked := Request.ofArguments_command
    (show (↑"verify" : Text).symbols.head? ≠ some (.character '-') by decide) roles
  have read := readCommand_verify width algorithms names
  rw [parse_verify width noHyphen] at read
  exact asked.1 _ read

end SortBench.CommandLine
