import SortBench.CommandLine.Usage
import SortBench.Text.DecimalDigit
import SortBench.Text.Quoted

/-!
# Grammars of arguments

A grammar has named parameters, which begin with a hyphen and may stand anywhere, and
positional ones, which take the other arguments in order. Each parameter acts on a state that
collects what was asked for. The roles of all arguments are decided before any of them acts:

* everything after a separator `--` is a plain argument;
* a name is the whole argument, or the part before an equals sign, and what follows the sign
  is the attached value;
* a long name may be shortened as long as no other name begins the same way;
* a name of one letter may be followed directly by its value; one without a value may be
  followed by further such names;
* a negative number and a text with a space are plain arguments, unless they are names;
* any other argument that begins with a hyphen is an unknown name.
-/

namespace SortBench.CommandLine

open Text (Symbol)

/-- Why the reading of arguments ended early: for an explanation that was asked for, or because they
are refused. -/
inductive Stop where
  /-- An explanation was asked for. -/
  | help
  /-- The arguments were refused with the given line. -/
  | refused (line : Text)
  /-- The arguments were refused or an explanation was asked for, but there is no summary of
  the arguments. -/
  | unbreakable
  deriving DecidableEq, Repr

/-- Why a parameter did not accept its value. -/
inductive Refusal where
  /-- The value is wrong in the given way. -/
  | value (message : Text)
  /-- The parameter asks for an explanation. -/
  | help
  /-- Reading ends. -/
  | stop (stop : Stop)

/-- What a named parameter does. -/
inductive Effect (σ : Type) where
  /-- It has no value. -/
  | plain (act : σ → Except Refusal σ)
  /-- It has one value. The separator stands for no value when it is attached to the name. -/
  | valued (act : Option Text → σ → Except Refusal σ)

/-- A parameter that is given by name. -/
structure Named (σ : Type) where
  /-- Its names. -/
  names : List Text
  /-- How it stands in the summary of the arguments. -/
  placeholder : Text
  /-- What it does. -/
  effect : Effect σ

/-- What a positional parameter takes, and what it does with it. -/
inductive Share (σ : Type) where
  /-- One argument. -/
  | one (act : Text → σ → Except Refusal σ)
  /-- All plain arguments up to the next named one. -/
  | many (act : List Text → σ → Except Refusal σ)
  /-- One argument and everything after it, names included. -/
  | remainder (act : Text → List Text → σ → Except Refusal σ)

/-- A parameter that is given by position. -/
structure Positional (σ : Type) where
  /-- Its name in messages. -/
  name : Text
  /-- How it stands in the summary of the arguments. -/
  placeholder : Text
  /-- What it takes. -/
  share : Share σ

/-- The parameters of a program: those that are given by name, and those that are given by
position. -/
structure Grammar (σ : Type) where
  /-- The name of the program in messages. -/
  program : String
  /-- How many characters a line of the summary has room for. -/
  width : Nat
  /-- The parameters that are given by name. -/
  named : List (Named σ)
  /-- The parameters that are given by position. -/
  positional : List (Positional σ)

variable {σ : Type}

/-- The parameter that asks for an explanation. -/
def Named.help : Named σ :=
  { names := ["-h", "--help"]
    placeholder := "[-h]"
    effect := .plain fun _ => .error .help }

/-- A parameter in messages: all its names. -/
def Named.title (named : Named σ) : Text :=
  .intercalate "/" named.names

namespace Grammar

/-- End reading in a way that begins with a summary of the arguments. -/
def summarise (grammar : Grammar σ) (stop : Stop) : Stop :=
  if Usage.isWritable grammar.width grammar.program
      (grammar.named.map Named.placeholder)
      (grammar.positional.map Positional.placeholder) then stop
  else .unbreakable

/-- Refuse the arguments. -/
def refuse (grammar : Grammar σ) (message : Text) : Stop :=
  grammar.summarise (.refused (grammar.program ++ ": error: " ++ message))

/-- Refuse the value of a parameter. -/
def complain (grammar : Grammar σ) (title : Text) : Refusal → Stop
  | .value message => grammar.refuse ("argument " ++ title ++ ": " ++ message)
  | .help => grammar.summarise .help
  | .stop stop => stop

/-- All names with their parameters. -/
def entries (grammar : Grammar σ) : List (Text × Named σ) :=
  grammar.named.flatMap fun named => named.names.map fun name => (name, named)

end Grammar

/-- The separator after which every argument is plain. -/
def separator : Text := "--"

/-- What is attached to a name within its argument: what follows the equals sign, or what
follows a name of one letter directly. -/
inductive Attachment where
  /-- Nothing. -/
  | nothing
  /-- A text, which may be empty. -/
  | text (content : Text)
  deriving DecidableEq, Repr

/-- A name found in an argument. -/
structure Mention (σ : Type) where
  /-- The full name. -/
  name : Text
  /-- The parameter. -/
  named : Named σ
  /-- What is attached to the name. -/
  attachment : Attachment

/-- The role of an argument. -/
inductive Role (σ : Type) where
  /-- It is the separator. -/
  | separator
  /-- It is a plain argument. -/
  | plain
  /-- It is a name. -/
  | mention (found : Mention σ)
  /-- It looks like a name, but there is no such name. -/
  | unknown

/-- An argument with its role. -/
structure Token (σ : Type) where
  /-- The argument. -/
  text : Text
  /-- Its role. -/
  role : Role σ

/-- Whether an argument is a name, known or not. -/
def Token.isName (token : Token σ) : Bool :=
  match token.role with
  | .mention _ => true
  | .unknown => true
  | _ => false

/-- Whether an argument is the separator. -/
def Token.isSeparator (token : Token σ) : Bool :=
  match token.role with
  | .separator => true
  | _ => false

/-- Split an argument before its first equals sign. Without such a sign nothing is assigned, which
is not the same as an empty value. -/
def splitAssignment (text : Text) : Text × Attachment :=
  let name := text.symbols.takeWhile fun (c : Symbol) => c != '='
  match text.symbols.drop name.length with
  | [] => (text, .nothing)
  | _ :: value => (⟨name⟩, .text ⟨value⟩)

/-- The names that an argument may abbreviate or begin with. Several of them make an argument
ambiguous. -/
def Grammar.candidates (grammar : Grammar σ) (text : Text) : List (Mention σ) :=
  match text.symbols with
  | .character '-' :: .character '-' :: _ =>
    let (stem, attachment) := splitAssignment text
    (grammar.entries.filter fun (name, _) => name.beginsWith stem).map
      fun (name, named) => ⟨name, named, attachment⟩
  | .character '-' :: letter :: value =>
    grammar.entries.filterMap fun (name, named) =>
      if name == ⟨['-', letter]⟩ then some ⟨name, named, .text ⟨value⟩⟩
      else if name.beginsWith text then some ⟨name, named, .nothing⟩
      else none
  | _ => []

/-- Whether a text is a minus sign with digits and at most one point, digits following the
point. One line end after it does not count. -/
def isNegativeNumber (text : Text) : Bool :=
  match text.legible with
  | '-' :: body =>
    let body := if body.getLast? == some '\n' then body.dropLast else body
    let whole := body.takeWhile Text.isDecimalDigit
    match body.dropWhile Text.isDecimalDigit with
    | [] => !whole.isEmpty
    | '.' :: fraction => !fraction.isEmpty && fraction.all Text.isDecimalDigit
    | _ => false
  | _ => false

/-- The role of an argument before any separator. It depends on the argument and on the names of the
grammar, and on no other argument. -/
def Grammar.role (grammar : Grammar σ) (text : Text) : Except Stop (Role σ) :=
  match text.symbols with
  | .character '-' :: _ :: _ =>
    match grammar.entries.lookup text with
    | some named => .ok (.mention ⟨text, named, .nothing⟩)
    | none =>
      let (name, attachment) := splitAssignment text
      match attachment, grammar.entries.lookup name with
      | .text value, some named => .ok (.mention ⟨name, named, .text value⟩)
      | _, _ =>
        match grammar.candidates text with
        | [found] => .ok (.mention found)
        | [] =>
          if isNegativeNumber text || text.symbols.contains ' ' then .ok .plain
          else .ok .unknown
        | several =>
          .error
            (grammar.refuse
              ("ambiguous option: " ++ text ++ " could match " ++
                .intercalate ", " (several.map Mention.name)))
  | _ => .ok .plain

/-- The roles of all arguments. From the separator on every argument is plain. -/
def Grammar.tokens (grammar : Grammar σ) : List Text → Except Stop (List (Token σ))
  | [] => .ok []
  | text :: rest =>
    if text == separator then
      .ok (⟨text, .separator⟩ :: rest.map fun text => ⟨text, .plain⟩)
    else
      match grammar.role text with
      | .error stop => .error stop
      | .ok role =>
        match grammar.tokens rest with
        | .error stop => .error stop
        | .ok tokens => .ok (⟨text, role⟩ :: tokens)

end SortBench.CommandLine
