import SortBench.CommandLine.Grammar

/-!
# Reading arguments by a grammar

Arguments are read from left to right. A name acts at once, on its attached value or on the
plain argument after it. Before a name, and once more at the end, the positional parameters
take what they can of the arguments up to there: each as much as it may, in order, until one
of them finds nothing to take. Arguments that nothing took are left over. Every positional
parameter must have had its turn in the end.
-/

namespace SortBench.CommandLine

open Text (Symbol)

variable {σ : Type}

/-- How many arguments a positional parameter takes of those that follow, if it can take its
due. Separators around a plain argument go with it. -/
def Share.extent (share : Share σ) (tokens : List (Token σ)) : Option Nat :=
  let leading := (tokens.takeWhile Token.isSeparator).length
  match share with
  | .many _ => some (tokens.takeWhile fun token => !token.isName).length
  | .one _ =>
    match tokens.drop leading with
    | [] => none
    | token :: rest =>
      if token.isName then none
      else some (leading + 1 + (rest.takeWhile Token.isSeparator).length)
  | .remainder _ =>
    match tokens.drop leading with
    | [] => none
    | token :: _ => if token.isName then none else some tokens.length

/-- Let a positional parameter act on the arguments that it took. All but the parameter that
takes everything lose one separator. -/
def Share.act (share : Share σ) (texts : List Text) (state : σ) : Except Refusal σ :=
  match share with
  | .many act => act (texts.erase separator) state
  | .one act =>
    match texts.erase separator with
    | [] => .ok state
    | text :: _ => act text state
  | .remainder act =>
    match texts with
    | [] => .ok state
    | text :: rest => act text rest state

/-- What is left after positional parameters have had their turn. -/
structure Turn (σ : Type) where
  /-- The positional parameters that have not had their turn. -/
  waiting : List (Positional σ)
  /-- How many arguments were taken. -/
  taken : Nat
  /-- The state. -/
  state : σ

/-- Give the positional parameters their turn. As many of them as can are given their share of the
plain arguments that come next, in their order. -/
def Grammar.serve (grammar : Grammar σ) :
    (waiting : List (Positional σ)) → (tokens : List (Token σ)) → σ → Except Stop (Turn σ)
  | [], _, state => .ok ⟨[], 0, state⟩
  | positional :: waiting, tokens, state =>
    match positional.share.extent tokens with
    | none => .ok ⟨positional :: waiting, 0, state⟩
    | some extent =>
      match positional.share.act ((tokens.take extent).map Token.text) state with
      | .error refusal => .error (grammar.complain positional.name refusal)
      | .ok state =>
        match grammar.serve waiting (tokens.drop extent) state with
        | .error stop => .error stop
        | .ok turn => .ok { turn with taken := extent + turn.taken }

/-- A named parameter that is to act. -/
structure Act (σ : Type) where
  /-- The parameter. -/
  named : Named σ
  /-- What it does. -/
  run : σ → Except Refusal σ

/-- What one argument that is a name leads to. -/
structure Acts (σ : Type) where
  /-- The acts, in order. -/
  acts : List (Act σ)
  /-- How many of the following arguments they take. -/
  taken : Nat

/-- An act in front of others. -/
def Acts.prepend (first : Act σ) (rest : Acts σ) : Acts σ :=
  { rest with acts := first :: rest.acts }

/-- The acts of a name with nothing attached: a value is the plain argument that follows. -/
def Grammar.unattached (grammar : Grammar σ) (named : Named σ) (following : List (Token σ)) :
    Except Stop (Acts σ) :=
  match named.effect with
  | .plain act => .ok ⟨[⟨named, act⟩], 0⟩
  | .valued act =>
    match following with
    | ⟨text, .plain⟩ :: _ => .ok ⟨[⟨named, act (some text)⟩], 1⟩
    | _ => .error (grammar.complain named.title (.value "expected one argument"))

/-- Refuse what is attached to a name that has no value. -/
def Grammar.ignored (grammar : Grammar σ) (named : Named σ) (attached : List Symbol) : Stop :=
  grammar.complain named.title
    (.value ("ignored explicit argument " ++ Text.quoted ⟨attached⟩))

/-- The value that attached symbols are. -/
def attachedValue (attached : List Symbol) : Option Text :=
  if attached == separator.symbols then none else some ⟨attached⟩

/-- The acts of a name with symbols attached. What is attached to a name of one letter
that has no value must be further such names, the last one with its value if it has one. -/
def Grammar.attached (grammar : Grammar σ) (short : Bool) (named : Named σ)
    (following : List (Token σ)) : List Symbol → Except Stop (Acts σ)
  | [] =>
    match named.effect with
    | .valued act => .ok ⟨[⟨named, act (some "")⟩], 0⟩
    | .plain _ => .error (grammar.ignored named [])
  | letter :: rest =>
    match named.effect with
    | .valued act => .ok ⟨[⟨named, act (attachedValue (letter :: rest))⟩], 0⟩
    | .plain act =>
      match if short then grammar.entries.lookup ⟨['-', letter]⟩ else none with
      | none => .error (grammar.ignored named (letter :: rest))
      | some next =>
        (match rest with
          | [] => grammar.unattached next following
          | further => grammar.attached true next following further).map
          (Acts.prepend ⟨named, act⟩)

/-- Whether a name has one letter. -/
def isShortName (name : Text) : Bool :=
  match name.symbols with
  | .character '-' :: letter :: _ => letter != '-'
  | _ => false

/-- The acts of a name. -/
def Grammar.acts (grammar : Grammar σ) (found : Mention σ) (following : List (Token σ)) :
    Except Stop (Acts σ) :=
  let short := isShortName found.name
  match found.attachment with
  | .nothing => grammar.unattached found.named following
  | .text content => grammar.attached short found.named following content.symbols

/-- Let named parameters act in order. -/
def Grammar.perform (grammar : Grammar σ) : List (Act σ) → σ → Except Stop σ
  | [], state => .ok state
  | act :: rest, state =>
    match act.run state with
    | .error refusal => .error (grammar.complain act.named.title refusal)
    | .ok state => grammar.perform rest state

/-- What reading has come to. -/
structure Progress (σ : Type) where
  /-- The positional parameters that have not had their turn. -/
  waiting : List (Positional σ)
  /-- The state. -/
  state : σ
  /-- The arguments that nothing took. -/
  left : List Text

/-- Read arguments whose roles are known. Each turn takes at least one argument, so that reading
ends. -/
def Grammar.walk (grammar : Grammar σ) (tokens : List (Token σ)) (progress : Progress σ) :
    Except Stop (Progress σ) :=
  match tokens with
  | [] =>
    match grammar.serve progress.waiting [] progress.state with
    | .error stop => .error stop
    | .ok turn => .ok { progress with waiting := turn.waiting, state := turn.state }
  | token :: rest =>
    match token.role with
    | .unknown =>
      grammar.walk rest { progress with left := progress.left ++ [token.text] }
    | .mention found =>
      match grammar.acts found rest with
      | .error stop => .error stop
      | .ok led =>
        match grammar.perform led.acts progress.state with
        | .error stop => .error stop
        | .ok state =>
          grammar.walk (rest.drop led.taken) { progress with state }
    | _ =>
      match grammar.serve progress.waiting (token :: rest) progress.state with
      | .error stop => .error stop
      | .ok turn =>
        if turn.taken = 0 then
          let passed := rest.takeWhile fun token => !token.isName
          grammar.walk (rest.drop passed.length)
            { waiting := turn.waiting
              state := turn.state
              left := progress.left ++ token.text :: passed.map Token.text }
        else
          grammar.walk (rest.drop (turn.taken - 1))
            { progress with waiting := turn.waiting, state := turn.state }
termination_by tokens.length
decreasing_by all_goals simp only [List.length_cons, List.length_drop]; omega

/-- Read arguments: the state they lead to, and the arguments that nothing took. It is left to the
caller whether there may be such arguments. -/
def Grammar.parse (grammar : Grammar σ) (start : σ) (arguments : List Text) :
    Except Stop (σ × List Text) :=
  match grammar.tokens arguments with
  | .error stop => .error stop
  | .ok tokens =>
    match grammar.walk tokens ⟨grammar.positional, start, []⟩ with
    | .error stop => .error stop
    | .ok progress =>
      if progress.waiting.isEmpty then .ok (progress.state, progress.left)
      else
        .error
          (grammar.refuse
            ("the following arguments are required: " ++
              .intercalate ", " (progress.waiting.map Positional.name)))

end SortBench.CommandLine
