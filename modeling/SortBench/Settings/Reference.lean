import SortBench.Settings.EnvFile

/-!
# References in the values of a file

A value of a file may refer to variables: a dollar sign and a name between braces stand for
the value of the variable. After the name may follow a colon, a hyphen and the text that
stands for the variable when there is none. A variable of the environment counts before one
that the file binds in an earlier statement, of several such statements the last counts, and
a name that is bound to nothing stands for the empty text.
-/

namespace SortBench.EnvFile

open Text (Symbol)

/-- A reference to a variable. -/
structure Reference where
  /-- The name of the variable. -/
  name : Text
  /-- The text that stands for the variable when there is none. -/
  fallback : Text
  deriving DecidableEq, Repr

/-- Read the reference after a dollar sign, with the number of symbols that it takes. -/
def readReference : List Symbol → Option (Reference × Nat)
  | .character '{' :: body =>
    let name := body.takeWhile fun (c : Symbol) => c != '}' && c != ':'
    match body.drop name.length with
    | .character '}' :: _ => some (⟨⟨name⟩, ""⟩, name.length + 2)
    | .character ':' :: .character '-' :: body =>
      let fallback := body.takeWhile fun (c : Symbol) => c != '}'
      if (body.drop fallback.length).isEmpty then none
      else some (⟨⟨name⟩, ⟨fallback⟩⟩, name.length + fallback.length + 4)
    | _ => none
  | _ => none

/-- A part of a value. -/
inductive Piece where
  /-- A symbol that stands for itself. -/
  | symbol (symbol : Symbol)
  /-- A reference to a variable. -/
  | reference (reference : Reference)
  deriving DecidableEq, Repr

/-- The parts of a value. A dollar sign that starts no reference stands for itself. -/
def pieces : List Symbol → List Piece
  | [] => []
  | c :: rest =>
    match if c == '$' then readReference rest else none with
    | some (reference, extent) => .reference reference :: pieces (rest.drop extent)
    | none => .symbol c :: pieces rest
termination_by text => text.length
decreasing_by all_goals simp only [List.length_cons, List.length_drop]; omega

/-- What a reference stands for, given the environment and the bindings of the file before
it, the latest first. -/
def Reference.meaning (environment : Texts) (earlier : List Binding) (reference : Reference) :
    Text :=
  match environment.lookup reference.name with
  | some value => value
  | none =>
    match earlier.lookup reference.name with
    | some value? => value?.getD ""
    | none => reference.fallback

/-- What a value stands for. -/
def expand (environment : Texts) (earlier : List Binding) (value : Text) : Text :=
  Text.join
    ((pieces value.symbols).map fun
      | .symbol symbol => ⟨[symbol]⟩
      | .reference reference => reference.meaning environment earlier)

/-- The bindings with every value replaced by what it stands for, after earlier bindings. -/
def expandAfter (environment : Texts) (earlier : List Binding) :
    List Binding → List Binding
  | [] => []
  | (name, value?) :: rest =>
    let binding := (name, value?.map (expand environment earlier))
    binding :: expandAfter environment (binding :: earlier) rest

/-- The variables that bindings set in an environment: in the order in which they first
occur, each with its last value. A variable of the environment is not set, nor is one that
is bound to nothing in the end. -/
def additions (environment : Texts) (bindings : List Binding) : Texts :=
  let expanded := expandAfter environment [] bindings
  (expanded.map Prod.fst).eraseDups.filterMap fun name =>
    if (environment.lookup name).isSome then none
    else (expanded.reverse.lookup name).join.map fun value => (name, value)

/-- The names that bindings bind or refer to. -/
def mentioned (bindings : List Binding) : List Text :=
  bindings.flatMap fun (name, value?) =>
    name :: (pieces (value?.getD "").symbols).filterMap fun
      | .symbol _ => none
      | .reference reference => some reference.name

end SortBench.EnvFile
