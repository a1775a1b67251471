import SortBench.Settings.Reader

/-!
# Readers of files

What the program relies on of a reader of files is one law. A file assigns each of its variables the
last value that is bound to its name, but a variable of the environment stays as it is, an empty one
too; and a file that is not there is passed over. The law is stated of one environment and one file:
a reader may well refuse others, and the reader that the program is run with does.

That reader keeps the law wherever files are not turned off and nothing in the name or in the
variables of the file stops it. How a text is taken apart into bindings is its own affair.
-/

namespace SortBench

namespace Settings

/-- The value that bindings give a variable: that of the last binding of its name, if the name is
bound to anything there. A last binding without a value leaves the variable without one, even if an
earlier binding has one. -/
def lastValue? (bindings : List EnvFile.Binding) (name : Text) : Option Text :=
  (bindings.reverse.lookup name).join

/-- The value of a variable stands in one of the bindings. -/
theorem mem_of_lastValue? {bindings : List EnvFile.Binding} {name value : Text}
    (valued : lastValue? bindings name = some value) : (name, some value) ∈ bindings := by
  obtain ⟨before, after, split, _⟩ :=
    List.lookup_eq_some_iff.mp (Option.join_eq_some_iff.mp valued)
  rw [← List.mem_reverse, split]
  exact List.mem_append_right _ List.mem_cons_self

/-- An environment is another one with the variables of bindings that the other does not hold.
Variables that are held are kept, the empty ones among them. -/
def IsFilled (environment : Texts) (bindings : List EnvFile.Binding) (filled : Texts) : Prop :=
  ∀ name, filled.lookup name = (environment.lookup name).or (lastValue? bindings name)

/-- The law of a reader of files, for an environment and the file of a name, given how the texts of
files bind names. A file that is there fills the environment with what it binds, and one that is not
there leaves it alone. How a text comes to bind anything is left to whoever supplies the
bindings. -/
structure FileReader.Assigns (reader : FileReader) (bindings : String → List EnvFile.Binding)
    (environment : Texts) (files : Files) (name : Text) : Prop where
  /-- A file that is there assigns its variables, unless the environment holds them. -/
  present : ∀ text, fileText? files name = some text →
    ∃ filled, reader files name environment = .ok filled ∧
      IsFilled environment (bindings text) filled
  /-- A file that is not there is passed over. -/
  missing : fileText? files name = none → reader files name environment = .ok environment

/-- What the file of a name binds; a file that is not there binds nothing. -/
def boundIn (bindings : String → List EnvFile.Binding) (files : Files) (name : Text) :
    List EnvFile.Binding :=
  (fileText? files name).elim [] bindings

/-- Bindings of nothing fill nothing in. -/
theorem isFilled_nil (environment : Texts) : IsFilled environment [] environment := by
  intro name
  cases environment.lookup name <;> rfl

/-- Either way a reader that keeps the law fills in what the file binds. -/
theorem FileReader.Assigns.exists_isFilled {reader : FileReader}
    {bindings : String → List EnvFile.Binding} {environment : Texts} {files : Files} {name : Text}
    (assigns : reader.Assigns bindings environment files name) :
    ∃ filled, reader files name environment = .ok filled ∧
      IsFilled environment (boundIn bindings files name) filled := by
  unfold boundIn
  cases found : fileText? files name with
  | none => exact ⟨environment, assigns.missing found, isFilled_nil environment⟩
  | some text => exact assigns.present text found

end Settings

namespace EnvFile

open Settings (lastValue?)

/-- The value of a variable of a file, the references in it replaced. -/
def value? (environment : Texts) (bindings : List Binding) (name : Text) : Option Text :=
  lastValue? (expandAfter environment [] bindings) name

/-- Among named values, one for each name that has a value, a name is looked up as itself. -/
theorem lookup_filterMap (value? : Text → Option Text) (names : List Text) (name : Text) :
    (names.filterMap fun other => (value? other).map fun value => (other, value)).lookup name =
      if name ∈ names then value? name else none := by
  induction names with
  | nil => rfl
  | cons other names inductionHypothesis =>
    by_cases same : name = other
    · subst same
      rw [if_pos List.mem_cons_self, List.filterMap_cons]
      cases valued : value? name with
      | none =>
        simp only [Option.map_none, inductionHypothesis, valued, ite_self]
      | some value => simp only [Option.map_some, List.lookup_cons, beq_self_eq_true]
    · have elsewhere : name ∈ other :: names ↔ name ∈ names := by
        rw [List.mem_cons, or_iff_right same]
      simp only [elsewhere, ← inductionHypothesis, List.filterMap_cons]
      cases value? other with
      | none => rfl
      | some value => simp only [Option.map_some, List.lookup_cons, beq_eq_false_iff_ne.mpr same]

theorem value?_of_notMem {environment : Texts} {bindings : List Binding} {name : Text}
    (unbound : name ∉ (expandAfter environment [] bindings).map Prod.fst) :
    value? environment bindings name = none := by
  have missing : (expandAfter environment [] bindings).reverse.lookup name = none := by
    rw [List.lookup_eq_none_iff]
    intro binding member
    refine bne_iff_ne.mpr ?_
    rintro rfl
    exact unbound (List.mem_map_of_mem (List.mem_reverse.mp member))
  rw [value?, lastValue?, missing]
  rfl

/-- The value with which bindings set a variable: one of the environment is not set. -/
def set? (environment : Texts) (bindings : List Binding) (name : Text) : Option Text :=
  if (environment.lookup name).isSome then none else value? environment bindings name

/-- Each name that is bound is set to its value, if there is one to set. Names are gone through once
each, in the order of their first bindings. -/
theorem additions_eq (environment : Texts) (bindings : List Binding) :
    additions environment bindings =
      ((expandAfter environment [] bindings).map Prod.fst).eraseDups.filterMap fun name =>
        (set? environment bindings name).map fun value => (name, value) := by
  refine congrArg (List.filterMap · _) (funext fun name => ?_)
  unfold set?
  split <;> rfl

/-- The variables that bindings set are looked up as themselves. -/
theorem lookup_additions (environment : Texts) (bindings : List Binding) (name : Text) :
    (additions environment bindings).lookup name = set? environment bindings name := by
  rw [additions_eq, lookup_filterMap]
  split
  case isTrue => rfl
  case isFalse unlisted =>
    rw [set?, value?_of_notMem (mt List.mem_eraseDups.mpr unlisted), ite_self]

/-- Among the variables that bindings set, each has its value. -/
theorem set?_of_mem {environment : Texts} {bindings : List Binding} {entry : Text × Text}
    (member : entry ∈ additions environment bindings) :
    set? environment bindings entry.1 = some entry.2 := by
  rw [additions_eq, List.mem_filterMap] at member
  obtain ⟨name, _, set⟩ := member
  obtain ⟨value, valued, rfl⟩ := Option.map_eq_some_iff.mp set
  exact valued

/-- The environment wins over what bindings add to it. -/
theorem lookup_append_additions (environment : Texts) (bindings : List Binding) (name : Text) :
    (environment ++ additions environment bindings).lookup name =
      (environment.lookup name).or (value? environment bindings name) := by
  rw [List.lookup_append, lookup_additions, set?]
  cases environment.lookup name <;> rfl

section Plain

open Text (Symbol)

/-- Symbols without a dollar sign stand for themselves. -/
theorem pieces_of_plain {symbols : List Symbol} (plain : .character '$' ∉ symbols) :
    pieces symbols = symbols.map .symbol := by
  induction symbols with
  | nil => rw [pieces, List.map_nil]
  | cons symbol symbols inductionHypothesis =>
    rw [List.mem_cons, not_or] at plain
    obtain ⟨differs, others⟩ := plain
    rw [pieces, if_neg (mt beq_iff_eq.mp (Ne.symm differs)), inductionHypothesis others,
      List.map_cons]

/-- A value without a dollar sign refers to nothing, so what it stands for depends on no
variable. -/
theorem expand_of_plain {value : Text} (plain : .character '$' ∉ value.symbols)
    (environment : Texts) (earlier : List Binding) : expand environment earlier value = value := by
  unfold expand Text.join
  rw [pieces_of_plain plain, List.map_map, List.flatMap_map]
  exact congrArg Text.mk (List.flatMap_singleton' _)

/-- Bindings without a dollar sign in a value stand for themselves. -/
theorem expandAfter_of_plain {bindings : List Binding}
    (plain : ∀ binding ∈ bindings, ∀ value ∈ binding.2, .character '$' ∉ value.symbols)
    (environment : Texts) (earlier : List Binding) :
    expandAfter environment earlier bindings = bindings := by
  induction bindings generalizing earlier with
  | nil => rfl
  | cons binding bindings inductionHypothesis =>
    obtain ⟨name, value⟩ := binding
    obtain ⟨first, others⟩ := List.forall_mem_cons.mp plain
    have kept : value.map (expand environment earlier) = value := by
      cases value with
      | none => rfl
      | some value => exact congrArg some (expand_of_plain (first value rfl) ..)
    rw [expandAfter, kept, inductionHypothesis others]

end Plain

end EnvFile

namespace Settings

/-- The bindings of the text of a file in an environment, references in values replaced. -/
def textBindings (environment : Texts) (text : String) : List EnvFile.Binding :=
  EnvFile.expandAfter environment [] (EnvFile.bindings (EnvFile.statements text))

/-- The reader that the program is run with keeps the law where files are not turned off, the name
of the file can be passed on, and so can every variable of it that the environment does not hold.
The three conditions are what can keep a file from being read or a variable from being set; that
there is one reader under the law shows that the law can be kept. -/
theorem envFileReader_assigns {environment : Texts} {files : Files} {name : Text}
    (enabled : filesDisabled environment = false) (named : nameFault? name = none)
    (settable : ∀ variableName value, environment.lookup variableName = none →
      lastValue? (boundIn (textBindings environment) files name) variableName = some value →
        entryFault? (variableName, value) = none) :
    envFileReader.Assigns (textBindings environment) environment files name := by
  have read : statements files name environment =
      .ok (EnvFile.statements ((fileText? files name).getD "")) := by
    unfold statements
    rw [if_neg (Bool.eq_false_iff.mp enabled), named]
  constructor
  case present =>
    intro text found
    rw [found] at read
    rw [boundIn, found] at settable
    have passed : (EnvFile.additions environment
        (EnvFile.bindings (EnvFile.statements text))).findSome? entryFault? = none := by
      refine List.findSome?_eq_none_iff.mpr fun entry member => ?_
      have set := EnvFile.set?_of_mem member
      unfold EnvFile.set? at set
      split at set
      case isTrue => cases set
      case isFalse missing =>
        exact settable entry.1 entry.2 (Option.not_isSome_iff_eq_none.mp missing) set
    refine ⟨_, ?_, EnvFile.lookup_append_additions environment _⟩
    rw [envFileReader, read]
    dsimp only [Option.getD_some]
    rw [extended, passed]
  case missing =>
    intro missing
    rw [missing] at read
    rw [envFileReader, read]
    exact congrArg Except.ok (List.append_nil environment)

end Settings

end SortBench
