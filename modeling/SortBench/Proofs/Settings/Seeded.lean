import SortBench.Proofs.Settings.Loading
import SortBench.Site

/-!
# Settings with a seed of the environment

A seed that is set in the environment wins over one of a file, so the settings are those with this
seed, or the seed is the fault. For that the other variables must be right both with the seed and
without it. They are, wherever the settings without it are loaded, unless the file refers to the
seed in the value of another variable.
-/

namespace SortBench

namespace EnvFile

/-- No value of bindings refers to a variable. -/
def Unreferenced (name : Text) (bindings : List Binding) : Prop :=
  ∀ binding ∈ bindings, ∀ value ∈ binding.2, ∀ reference : Reference,
    .reference reference ∈ pieces value.symbols → reference.name ≠ name

/-- Values without a dollar sign refer to nothing. -/
theorem Unreferenced.of_plain {bindings : List Binding}
    (plain : ∀ binding ∈ bindings, ∀ value ∈ binding.2, .character '$' ∉ value.symbols)
    (name : Text) : Unreferenced name bindings := by
  intro binding member value stands reference found
  rw [pieces_of_plain (plain binding member value stands)] at found
  obtain ⟨symbol, _, same⟩ := List.mem_map.mp found
  cases same

section

variable {first second : Texts} {apart : Text}
  (agree : ∀ name, name ≠ apart → first.lookup name = second.lookup name)

include agree

/-- A value that does not refer to a variable stands for the same whatever that variable is. -/
theorem expand_congr {value : Text}
    (unreferenced : ∀ reference : Reference,
      .reference reference ∈ pieces value.symbols → reference.name ≠ apart)
    (earlier : List Binding) : expand first earlier value = expand second earlier value := by
  unfold expand
  refine congrArg Text.join (List.map_congr_left fun piece member => ?_)
  cases piece with
  | symbol symbol => rfl
  | reference reference =>
    show reference.meaning first earlier = reference.meaning second earlier
    unfold Reference.meaning
    rw [agree reference.name (unreferenced reference member)]

/-- So do bindings whose values do not refer to it. Bindings may refer to earlier ones, so the
induction keeps these along. -/
theorem expandAfter_congr {bindings : List Binding} (unreferenced : Unreferenced apart bindings)
    (earlier : List Binding) :
    expandAfter first earlier bindings = expandAfter second earlier bindings := by
  induction bindings generalizing earlier with
  | nil => rfl
  | cons binding bindings inductionHypothesis =>
    obtain ⟨name, value⟩ := binding
    obtain ⟨here, others⟩ := List.forall_mem_cons.mp unreferenced
    have same : value.map (expand first earlier) = value.map (expand second earlier) := by
      cases value with
      | none => rfl
      | some value => exact congrArg some (expand_congr agree (here value rfl) earlier)
    simp only [expandAfter]
    rw [same, inductionHypothesis others]

theorem value?_congr {bindings : List Binding} (unreferenced : Unreferenced apart bindings)
    (name : Text) : value? first bindings name = value? second bindings name := by
  unfold value?
  rw [expandAfter_congr agree unreferenced]

/-- If the first environment holds that variable, bindings set nothing in it that they do not set in
the second. They may set less, namely the variable itself. -/
theorem additions_subset {bindings : List Binding} (unreferenced : Unreferenced apart bindings)
    (held : (first.lookup apart).isSome = true) :
    ∀ entry ∈ additions first bindings, entry ∈ additions second bindings := by
  intro entry member
  rw [additions_eq, List.mem_filterMap] at member ⊢
  obtain ⟨name, listed, set⟩ := member
  refine ⟨name, expandAfter_congr agree unreferenced [] ▸ listed, ?_⟩
  have other : name ≠ apart := by
    rintro rfl
    rw [set?, if_pos held] at set
    cases set
  rw [← set, set?, set?, agree name other, value?_congr agree unreferenced]

end

end EnvFile

namespace Settings

/-- The bindings of the file that is read: the chosen one or else the default one. A file that is
not there binds nothing. -/
def fileBindings (files : Files) (chosen : Option Text) : List EnvFile.Binding :=
  EnvFile.bindings (EnvFile.statements ((fileText? files (chosen.getD defaultFile)).getD ""))

/-- The settings are those of the completed environment. -/
theorem load_eq_completed (environment : Texts) (files : Files) (chosen : Option Text) :
    load environment files chosen =
      match completed environment files chosen with
      | .error fault => .error fault
      | .ok filled => ofEnvironment filled :=
  rfl

/-- How the reader that the program is run with leaves an environment: as it is where files are
turned off, and otherwise with what the bindings set, unless the file or one of these variables
cannot be passed on. -/
theorem envFileReader_eq (files : Files) (name : Text) (environment : Texts) :
    envFileReader files name environment =
      if filesDisabled environment then .ok environment
      else
        match nameFault? name with
        | some fault => .error fault
        | none =>
          let added := EnvFile.additions environment (fileBindings files (some name))
          match added.findSome? entryFault? with
          | some fault => .error fault
          | none => .ok (environment ++ added) := by
  unfold envFileReader statements
  by_cases off : filesDisabled environment = true
  · rw [if_pos off, if_pos off]
    exact congrArg Except.ok (List.append_nil environment)
  · rw [if_neg off, if_neg off]
    cases nameFault? name with
    | some fault => rfl
    | none => rfl

/-- How an environment is completed: likewise, with the file that is read. -/
theorem completed_eq (environment : Texts) (files : Files) (chosen : Option Text) :
    completed environment files chosen =
      if filesDisabled environment then .ok environment
      else
        match nameFault? (chosen.getD defaultFile) with
        | some fault => .error fault
        | none =>
          let added := EnvFile.additions environment (fileBindings files chosen)
          match added.findSome? entryFault? with
          | some fault => .error fault
          | none => .ok (environment ++ added) := by
  cases chosen with
  | some name => exact envFileReader_eq files name environment
  | none =>
    rw [completed, completedBy]
    split
    case isTrue => exact envFileReader_eq files defaultFile environment
    case isFalse absent =>
      have missing : fileText? files defaultFile = none := Option.not_isSome_iff_eq_none.mp absent
      have unbound : fileBindings files none = [] := by
        rw [fileBindings, Option.getD_none, missing]
        rfl
      have unchanged : environment ++ EnvFile.additions environment [] = environment :=
        List.append_nil environment
      have named : nameFault? defaultFile = none := by decide
      rw [unbound, Option.getD_none, named]
      dsimp only
      rw [unchanged]
      exact (ite_self _).symm

/-- A completed environment is the environment with variables behind it. Those in front win, so
nothing that was set is changed. -/
theorem exists_of_completed {environment filled : Texts} {files : Files} {chosen : Option Text}
    (complete : completed environment files chosen = .ok filled) :
    ∃ added, filled = environment ++ added := by
  rw [completed_eq] at complete
  split at complete
  case isTrue =>
    cases complete
    exact ⟨[], (List.append_nil _).symm⟩
  case isFalse =>
    split at complete
    case h_1 => cases complete
    case h_2 =>
      dsimp only at complete
      split at complete
      case h_1 => cases complete
      case h_2 =>
        cases complete
        exact ⟨_, rfl⟩

/-- An environment with a seed. -/
def seeded (text : Text) (environment : Texts) : Texts :=
  (seedName, text) :: environment

/-- Every other variable is as it was. -/
theorem lookup_seeded (text : Text) (environment : Texts) {name : Text} (other : name ≠ seedName) :
    (seeded text environment).lookup name = environment.lookup name := by
  rw [seeded, List.lookup_cons, beq_eq_false_iff_ne.mpr other]

/-- Where the file does not refer to the seed, an environment that can be completed can be so with a
seed, and every other variable is the same in the end. -/
theorem exists_completed_seeded {environment filled : Texts} {files : Files} {chosen : Option Text}
    (unreferenced : EnvFile.Unreferenced seedName (fileBindings files chosen))
    (complete : completed environment files chosen = .ok filled) (text : Text) :
    ∃ other, completed (seeded text environment) files chosen = .ok other ∧
      ∀ name, name ≠ seedName → other.lookup name = filled.lookup name := by
  have agree (name : Text) (other : name ≠ seedName) :
      (seeded text environment).lookup name = environment.lookup name :=
    lookup_seeded text environment other
  have disabled : filesDisabled (seeded text environment) = filesDisabled environment := by
    unfold filesDisabled
    rw [agree disablingName (by decide)]
  have held : ((seeded text environment).lookup seedName).isSome = true := by
    rw [seeded, List.lookup_cons_self]
    rfl
  rw [completed_eq] at complete ⊢
  rw [disabled]
  by_cases off : filesDisabled environment = true
  · rw [if_pos off] at complete ⊢
    cases complete
    exact ⟨_, rfl, agree⟩
  · rw [if_neg off] at complete ⊢
    generalize nameFault? (chosen.getD defaultFile) = named at complete ⊢
    cases named with
    | some fault => cases complete
    | none =>
      dsimp only at complete ⊢
      split at complete
      case h_1 => cases complete
      case h_2 passed =>
        cases complete
        have passedToo : (EnvFile.additions (seeded text environment)
            (fileBindings files chosen)).findSome? entryFault? = none := by
          rw [List.findSome?_eq_none_iff] at passed ⊢
          exact fun entry member =>
            passed entry (EnvFile.additions_subset agree unreferenced held entry member)
        rw [passedToo]
        refine ⟨_, rfl, fun name other => ?_⟩
        rw [EnvFile.lookup_append_additions, EnvFile.lookup_append_additions, agree name other,
          EnvFile.value?_congr agree unreferenced]

/-- Settings are right but for a seed: they are loaded without it, and with it the environment can
be completed too, to one that has the same limit and some level. A file in which another variable
refers to the seed may break this, as its meaning then changes with the seed. -/
structure RightButSeed (environment : Texts) (files : Files) (text : Text) (settings : Settings) :
    Prop where
  /-- Without the seed the settings are loaded. -/
  loaded : load environment files none = .ok settings
  /-- With the seed no other variable is wrong, and the limit is the same. -/
  others : ∃ filled, completed (seeded text environment) files none = .ok filled ∧
    LimitIs filled settings.limit ∧ ∃ level, LevelIs filled level

/-- Settings that are loaded are right but for any seed to which the file does not refer. This is
the usual case, and the only thing to check is the file. -/
theorem RightButSeed.of_unreferenced {environment : Texts} {files : Files} {settings : Settings}
    (unreferenced : EnvFile.Unreferenced seedName (fileBindings files none))
    (loaded : load environment files none = .ok settings) (text : Text) :
    RightButSeed environment files text settings := by
  refine ⟨loaded, ?_⟩
  rw [load_eq_completed] at loaded
  split at loaded
  case h_1 => cases loaded
  case h_2 filled complete =>
    obtain ⟨other, completeToo, same⟩ := exists_completed_seeded unreferenced complete text
    cases determines_iff.mpr loaded with
    | @settings _ _ level isSeed isLimit isLevel =>
      refine ⟨other, completeToo, ⟨?_, isLimit.nonneg⟩, level, ?_⟩
      · have standsFor := isLimit.standsFor
        unfold LimitStandsFor given at standsFor ⊢
        rwa [same limitName (by decide)]
      · unfold LevelIs givenLevel at isLevel ⊢
        rwa [same levelName (by decide)]

/-- With a seed that is written, and the settings right but for it, the settings have this seed and
the same limit, or the seed is the fault. -/
theorem RightButSeed.load_seeded {environment : Texts} {files : Files} {text : Text}
    {settings : Settings} (right : RightButSeed environment files text settings)
    (written : text ≠ "") :
    (∀ seed, Numeral.readLiteral text = .ok seed → 1 ≤ seed ∧ seed ≤ 65535 →
        ∃ other, load (seeded text environment) files none = .ok other ∧ other.seed = seed ∧
          other.limit = settings.limit) ∧
      ((∀ seed, Numeral.readLiteral text = .ok seed → ¬ (1 ≤ seed ∧ seed ≤ 65535)) →
        ∃ fault, load (seeded text environment) files none = .error fault) := by
  obtain ⟨filled, complete, isLimit, level, isLevel⟩ := right.others
  obtain ⟨added, rfl⟩ := exists_of_completed complete
  have stands : given (seeded text environment ++ added) seedName = text := by
    unfold given seeded
    rw [List.cons_append, List.lookup_cons_self, Option.getD_some]
  have computed : load (seeded text environment) files none =
      ofEnvironment (seeded text environment ++ added) := by
    rw [load_eq_completed, complete]
  rw [computed]
  constructor
  · intro seed reads inside
    have isSeed : SeedIs (seeded text environment ++ added) seed := by
      refine ⟨?_, inside.1, inside.2⟩
      unfold SeedStandsFor
      rw [stands]
      exact .written written reads
    exact ⟨_, determines_iff.mp (.settings isSeed isLimit isLevel), rfl, rfl⟩
  · intro unfit
    obtain ⟨seed, standsFor, positive, fits⟩ | ⟨fault, wrong⟩ :=
      seed_cases (seeded text environment ++ added)
    · unfold SeedStandsFor at standsFor
      rw [stands] at standsFor
      cases standsFor with
      | empty => exact absurd rfl written
      | written _ reads => exact absurd ⟨positive, fits⟩ (unfit seed reads)
    · exact ⟨fault, determines_iff.mp (.seed wrong)⟩

end Settings

end SortBench
