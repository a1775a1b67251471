import SortBench.Proofs.Register.Draws
import SortBench.Settings.Basic

/-!
# The settings of an environment

What each variable of an environment must be, told without the order in which the variables are
read: an empty seed or limit stands for the default, as a missing one does, while an empty level is
no level. An environment determines one outcome, the settings or the first fault in the order seed,
limit, level, and it is the one that is computed.
-/

namespace SortBench

/-- A level is found by its name, and by no other text. -/
theorem Level.ofName?_eq_some_iff {name : Text} {level : Level} :
    ofName? name = some level ↔ level.name = name := by
  constructor
  · intro found
    unfold ofName? at found
    have named := List.find?_some found
    exact eq_of_beq named
  · rintro rfl
    cases level <;> rfl

theorem Level.mem_all (level : Level) : level ∈ all := by
  cases level <;> decide

namespace Settings

open Numeral (Misread)

/-- The number that the text of a variable stands for: the default one if the text is empty, and
otherwise what the text is read as. -/
inductive StandsFor (read : Text → Except Misread Int) (default : Int) : Text → Int → Prop where
  /-- An empty text stands for the default. -/
  | empty : StandsFor read default "" default
  /-- Any other text stands for the number that is read. -/
  | written {text : Text} {number : Int} (written : text ≠ "") (reads : read text = .ok number) :
    StandsFor read default text number

/-- The text of a variable, which is empty when there is no such variable. An empty variable and a
missing one are therefore the same. -/
def given (environment : Texts) (name : Text) : Text :=
  (environment.lookup name).getD ""

/-- The seed of an environment stands for a number, written in any base. -/
def SeedStandsFor (environment : Texts) : Int → Prop :=
  StandsFor Numeral.readLiteral Register.defaultSeed (given environment seedName)

/-- The limit of an environment stands for a number, written in decimal digits. -/
def LimitStandsFor (environment : Texts) : Int → Prop :=
  StandsFor Numeral.readDecimal defaultLimit (given environment limitName)

/-- The name of the level in capital letters. -/
def givenLevel (environment : Texts) : Text :=
  Text.uppercase ((environment.lookup levelName).getD defaultLevel)

/-- A number is the seed of an environment. -/
structure SeedIs (environment : Texts) (seed : Int) : Prop where
  /-- The variable stands for it. -/
  standsFor : SeedStandsFor environment seed
  /-- It is no less than one. -/
  positive : 1 ≤ seed
  /-- It has sixteen bits. -/
  fits : seed ≤ 65535

/-- What is wrong with the seed of an environment. -/
inductive SeedWrong (environment : Texts) : Fault → Prop where
  /-- It stands for no number. -/
  | unreadable (none : ∀ number, ¬ SeedStandsFor environment number) :
    SeedWrong environment (.seedUnreadable (given environment seedName))
  /-- It is zero. -/
  | zero (standsFor : SeedStandsFor environment 0) :
    SeedWrong environment (.seedRefused .zeroSeed)
  /-- It is another number that is no seed. -/
  | outside {seed : Int} (standsFor : SeedStandsFor environment seed) (nonzero : seed ≠ 0)
    (outside : seed < 1 ∨ 65535 < seed) :
    SeedWrong environment (.seedRefused (.seedOutOfRange seed))

/-- A number is the limit of an environment. -/
structure LimitIs (environment : Texts) (limit : Int) : Prop where
  /-- The variable stands for it. -/
  standsFor : LimitStandsFor environment limit
  /-- It is not negative. -/
  nonneg : 0 ≤ limit

/-- What is wrong with the limit of an environment. -/
inductive LimitWrong (environment : Texts) : Fault → Prop where
  /-- It stands for no number. -/
  | unreadable (none : ∀ number, ¬ LimitStandsFor environment number) :
    LimitWrong environment (.limitUnreadable (given environment limitName))
  /-- It is negative. -/
  | negative {limit : Int} (standsFor : LimitStandsFor environment limit)
    (negative : limit < 0) : LimitWrong environment (.limitNegative limit)

/-- The level of an environment is the one with its name. -/
def LevelIs (environment : Texts) (level : Level) : Prop :=
  level.name = givenLevel environment

/-- What is wrong with the level of an environment. -/
inductive LevelWrong (environment : Texts) : Fault → Prop where
  /-- No level has its name. -/
  | unknown (none : ∀ level, ¬ LevelIs environment level) :
    LevelWrong environment (.levelUnknown (givenLevel environment))

/-- The outcome that an environment determines: the settings, or what is wrong with the first
variable that is wrong. The variables come in a fixed order, the seed first and the level last, so
of several faults there is one that is named. -/
inductive Determines (environment : Texts) : Except Fault Settings → Prop where
  /-- The seed is wrong. -/
  | seed {fault : Fault} (wrong : SeedWrong environment fault) :
    Determines environment (.error fault)
  /-- The seed is right and the limit is wrong. -/
  | limit {seed : Int} {fault : Fault} (isSeed : SeedIs environment seed)
    (wrong : LimitWrong environment fault) : Determines environment (.error fault)
  /-- The seed and the limit are right and the level is wrong. -/
  | level {seed limit : Int} {fault : Fault} (isSeed : SeedIs environment seed)
    (isLimit : LimitIs environment limit) (wrong : LevelWrong environment fault) :
    Determines environment (.error fault)
  /-- All are right. -/
  | settings {seed limit : Int} {level : Level} (isSeed : SeedIs environment seed)
    (isLimit : LimitIs environment limit) (isLevel : LevelIs environment level) :
    Determines environment
      (.ok ⟨seed, limit, level, (environment.lookup frontendName).getD defaultFrontend⟩)

section Numbers

variable {read : Text → Except Misread Int} {default : Int} {text : Text}

/-- The number that is computed from the text of a variable. -/
def number? (read : Text → Except Misread Int) (default : Int) (text : Text) : Option Int :=
  if text.isEmpty then some default else (read text).toOption

/-- A text stands for the number that is computed from it. -/
theorem number?_eq_some_iff {number : Int} :
    number? read default text = some number ↔ StandsFor read default text number := by
  have empty : text.isEmpty = true ↔ text = "" := by
    cases text
    simp [Text.isEmpty, Text.ofString, Text.ofChars]
  constructor
  · intro computed
    unfold number? at computed
    split at computed
    case isTrue missing =>
      cases empty.mp missing
      cases computed
      exact .empty
    case isFalse written =>
      refine .written (mt empty.mpr written) ?_
      cases reads : read text with
      | error _ =>
        rw [reads] at computed
        cases computed
      | ok _ =>
        rw [reads] at computed
        cases computed
        rfl
  · intro standsFor
    cases standsFor with
    | empty => rfl
    | written written reads =>
      rw [number?, if_neg (mt empty.mp written), reads]
      rfl

/-- A text stands for no number when none is computed from it. -/
theorem number?_eq_none_iff :
    number? read default text = none ↔ ∀ number, ¬ StandsFor read default text number := by
  simp only [Option.eq_none_iff_forall_ne_some, ne_eq, number?_eq_some_iff]

end Numbers

section Variables

variable {environment : Texts}

/-- The seed is right or wrong. The two are defined apart from each other, so that one of them
always holds has to be shown. -/
theorem seed_cases (environment : Texts) :
    (∃ seed, SeedIs environment seed) ∨ ∃ fault, SeedWrong environment fault := by
  by_cases readable : ∃ number, SeedStandsFor environment number
  · obtain ⟨seed, standsFor⟩ := readable
    by_cases zero : seed = 0
    · subst zero
      exact Or.inr ⟨_, .zero standsFor⟩
    · by_cases outside : seed < 1 ∨ 65535 < seed
      · exact Or.inr ⟨_, .outside standsFor zero outside⟩
      · exact Or.inl ⟨seed, standsFor, by omega, by omega⟩
  · exact Or.inr ⟨_, .unreadable (not_exists.mp readable)⟩

/-- The limit is right or wrong. -/
theorem limit_cases (environment : Texts) :
    (∃ limit, LimitIs environment limit) ∨ ∃ fault, LimitWrong environment fault := by
  by_cases readable : ∃ number, LimitStandsFor environment number
  · obtain ⟨limit, standsFor⟩ := readable
    by_cases negative : limit < 0
    · exact Or.inr ⟨_, .negative standsFor negative⟩
    · exact Or.inl ⟨limit, standsFor, by omega⟩
  · exact Or.inr ⟨_, .unreadable (not_exists.mp readable)⟩

theorem level_cases (environment : Texts) :
    (∃ level, LevelIs environment level) ∨ ∃ fault, LevelWrong environment fault := by
  by_cases known : ∃ level, LevelIs environment level
  · exact Or.inl known
  · exact Or.inr ⟨_, .unknown (not_exists.mp known)⟩

/-- The seed that is computed is held against the seeds. -/
theorem readSeed_eq (environment : Texts) :
    readSeed environment =
      match number? Numeral.readLiteral Register.defaultSeed (given environment seedName) with
      | none => .error (.seedUnreadable (given environment seedName))
      | some seed =>
        match Generator.requireSeed seed with
        | .met _ => .ok seed
        | .violated cause => .error (.seedRefused cause) :=
  rfl

/-- The limit that is computed is held against zero. -/
theorem readLimit_eq (environment : Texts) :
    readLimit environment =
      match number? Numeral.readDecimal defaultLimit (given environment limitName) with
      | none => .error (.limitUnreadable (given environment limitName))
      | some limit => if limit < 0 then .error (.limitNegative limit) else .ok limit :=
  rfl

/-- The level is looked up by its name. -/
theorem readLevel_eq (environment : Texts) :
    readLevel environment =
      match Level.ofName? (givenLevel environment) with
      | some level => .ok level
      | none => .error (.levelUnknown (givenLevel environment)) :=
  rfl

/-- A seed that is right is read. -/
theorem SeedIs.readSeed {seed : Int} (isSeed : SeedIs environment seed) :
    readSeed environment = .ok seed := by
  have largest : (Register.top : Int) = 65535 := rfl
  obtain ⟨standsFor, positive, fits⟩ := isSeed
  rw [readSeed_eq, number?_eq_some_iff.mpr standsFor]
  simp only [Generator.requireSeed, dif_neg (show ¬ seed = 0 by omega),
    dif_neg (show ¬ (seed < 0 ∨ (Register.top : Int) < seed) by omega)]

/-- What is wrong with the seed is the fault. -/
theorem SeedWrong.readSeed {fault : Fault} (wrong : SeedWrong environment fault) :
    readSeed environment = .error fault := by
  rw [readSeed_eq]
  cases wrong with
  | unreadable none => rw [number?_eq_none_iff.mpr none]
  | zero standsFor =>
    rw [number?_eq_some_iff.mpr standsFor]
    rfl
  | @outside seed standsFor nonzero outside =>
    have largest : (Register.top : Int) = 65535 := rfl
    rw [number?_eq_some_iff.mpr standsFor]
    simp only [Generator.requireSeed, dif_neg nonzero,
      dif_pos (show seed < 0 ∨ (Register.top : Int) < seed by omega)]

/-- A seed that is right starts a generator. What the settings accept is therefore never refused
later, when values are drawn. -/
theorem SeedIs.exists_generator {seed : Int} (isSeed : SeedIs environment seed) :
    ∃ generator, Generator.ofSeed seed = .ok generator := by
  obtain ⟨_, positive, fits⟩ := isSeed
  obtain ⟨zero, _⟩ | ⟨_, outside, _⟩ | ⟨generator, _, _, started, _⟩ :=
    Generator.ofSeed_cases seed
  · omega
  · omega
  · exact ⟨generator, started⟩

/-- A limit that is right is read. -/
theorem LimitIs.readLimit {limit : Int} (isLimit : LimitIs environment limit) :
    readLimit environment = .ok limit := by
  rw [readLimit_eq, number?_eq_some_iff.mpr isLimit.standsFor]
  exact if_neg (Int.not_lt.mpr isLimit.nonneg)

/-- What is wrong with the limit is the fault. -/
theorem LimitWrong.readLimit {fault : Fault} (wrong : LimitWrong environment fault) :
    readLimit environment = .error fault := by
  rw [readLimit_eq]
  cases wrong with
  | unreadable none => rw [number?_eq_none_iff.mpr none]
  | negative standsFor negative =>
    rw [number?_eq_some_iff.mpr standsFor]
    exact if_pos negative

theorem LevelIs.readLevel {level : Level} (isLevel : LevelIs environment level) :
    readLevel environment = .ok level := by
  rw [readLevel_eq, Level.ofName?_eq_some_iff.mpr isLevel]

theorem LevelWrong.readLevel {fault : Fault} (wrong : LevelWrong environment fault) :
    readLevel environment = .error fault := by
  obtain ⟨unknown⟩ := wrong
  have missing : Level.ofName? (givenLevel environment) = none :=
    Option.eq_none_iff_forall_ne_some.mpr fun level found =>
      unknown level (Level.ofName?_eq_some_iff.mp found)
  rw [readLevel_eq, missing]

/-- The outcome that an environment determines is the one that is computed. This is the sound
direction; with the existence of an outcome, the other one follows. -/
theorem Determines.ofEnvironment {outcome : Except Fault Settings}
    (determines : Determines environment outcome) : ofEnvironment environment = outcome := by
  unfold Settings.ofEnvironment
  cases determines with
  | seed wrong => rw [wrong.readSeed]
  | limit isSeed wrong => rw [isSeed.readSeed, wrong.readLimit]
  | level isSeed isLimit wrong => rw [isSeed.readSeed, isLimit.readLimit, wrong.readLevel]
  | settings isSeed isLimit isLevel =>
    rw [isSeed.readSeed, isLimit.readLimit, isLevel.readLevel]

/-- Every environment determines an outcome. -/
theorem exists_determines (environment : Texts) : ∃ outcome, Determines environment outcome := by
  obtain ⟨_, isSeed⟩ | ⟨_, wrong⟩ := seed_cases environment
  · obtain ⟨_, isLimit⟩ | ⟨_, wrong⟩ := limit_cases environment
    · obtain ⟨_, isLevel⟩ | ⟨_, wrong⟩ := level_cases environment
      · exact ⟨_, .settings isSeed isLimit isLevel⟩
      · exact ⟨_, .level isSeed isLimit wrong⟩
    · exact ⟨_, .limit isSeed wrong⟩
  · exact ⟨_, .seed wrong⟩

/-- An environment determines the outcome that is computed and no other. -/
theorem determines_iff {outcome : Except Fault Settings} :
    Determines environment outcome ↔ ofEnvironment environment = outcome := by
  refine ⟨Determines.ofEnvironment, ?_⟩
  rintro rfl
  obtain ⟨outcome, determines⟩ := exists_determines environment
  rwa [determines.ofEnvironment]

end Variables

end Settings

end SortBench
