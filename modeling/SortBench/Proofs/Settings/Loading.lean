import SortBench.Proofs.Settings.Checked
import SortBench.Proofs.Settings.Readers

/-!
# Loading the settings

A file of variables fills in what the environment leaves out. With a reader that keeps the law of
readers, whatever else it does, each variable of the file has the value of its last binding, and a
variable of the environment wins over it, an empty one too. So the settings are those of the
environment extended by the variables of the file that it does not hold, as they would be without
any file. A file that is chosen leaves no part to the default one. Settings that are loaded are in
range, whichever way they come about and whatever the reader.

The law is all that is assumed. How files are taken apart does not enter, and the reader that the
program is run with is but an instance, at the end.
-/

namespace SortBench

namespace Settings

/-- Two collections of files differ in nothing but the default file: every other name finds the same
text. -/
def AlikeButDefault (files others : Files) : Prop :=
  ∀ name, fileParts? name ≠ fileParts? defaultFile → fileText? others name = fileText? files name

/-- The files without the default one. -/
def withoutDefault (files : Files) : Files :=
  files.filter fun (other, _) => fileParts? other != fileParts? defaultFile

/-- Settings depend on the values of four variables only. What else an environment holds, and in
what order, makes no difference. -/
theorem ofEnvironment_congr {first second : Texts}
    (same : ∀ name ∈ variableNames, first.lookup name = second.lookup name) :
    ofEnvironment first = ofEnvironment second := by
  simp only [variableNames, List.forall_mem_cons] at same
  obtain ⟨sameSeed, sameLimit, sameLevel, sameFrontend, _⟩ := same
  unfold ofEnvironment readSeed readLimit readLevel
  rw [sameSeed, sameLimit, sameLevel, sameFrontend]

theorem alikeButDefault_withoutDefault (files : Files) :
    AlikeButDefault files (withoutDefault files) := by
  intro name other
  unfold fileText? withoutDefault
  cases named : fileParts? name with
  | none => rfl
  | some parts =>
    rw [named] at other
    have unaffected (file : Text × String) :
        (fileParts? file.1 != fileParts? defaultFile) = true ∧
            (fileParts? file.1 == some parts) = true ↔
          (fileParts? file.1 == some parts) = true := by
      refine and_iff_right_of_imp fun found => ?_
      rw [eq_of_beq found]
      exact bne_iff_ne.mpr other
    simp only [Option.bind_some, List.find?_filter, unaffected, Bool.decide_eq_true]

section

variable {reader : FileReader} {bindings : String → List EnvFile.Binding} {environment : Texts}
  {files : Files}

/-- Without files the settings are those of the environment, whatever reader there is: it is asked
about no file. -/
theorem loadBy_nil (reader : FileReader) (environment : Texts) :
    loadBy reader environment [] none = ofEnvironment environment := by
  have missing : (fileText? [] defaultFile).isSome = false := by decide
  rw [loadBy, completedBy, missing]
  rfl

/-- Settings that are loaded are those of some environment. No law is needed for this: whatever the
reader does, the checks come after it. -/
theorem exists_ofEnvironment_of_loadBy {chosen : Option Text} {settings : Settings}
    (loaded : loadBy reader environment files chosen = .ok settings) :
    ∃ filled, ofEnvironment filled = .ok settings := by
  unfold loadBy at loaded
  split at loaded
  case h_1 => cases loaded
  case h_2 filled _ => exact ⟨filled, loaded⟩

/-- Under the law the environment is completed by what the file binds, be it chosen or the default
one. -/
theorem exists_completedBy {chosen : Option Text}
    (assigns : reader.Assigns bindings environment files (chosen.getD defaultFile)) :
    ∃ filled, completedBy reader environment files chosen = .ok filled ∧
      IsFilled environment (boundIn bindings files (chosen.getD defaultFile)) filled := by
  cases chosen with
  | some name => exact assigns.exists_isFilled
  | none =>
    rw [completedBy]
    split
    case isTrue => exact assigns.exists_isFilled
    case isFalse absent =>
      -- The reader is not even asked for a default file that is not there.
      have missing : fileText? files defaultFile = none := Option.not_isSome_iff_eq_none.mp absent
      rw [Option.getD_none, boundIn, missing]
      exact ⟨environment, rfl, isFilled_nil environment⟩

/-- Under the law the settings are those of any environment that has the variables of the file in
addition. Such environments may differ in the order of their variables, and in variables that no
setting is read from. -/
theorem loadBy_eq_ofEnvironment (chosen : Option Text) {filled : Texts}
    (assigns : reader.Assigns bindings environment files (chosen.getD defaultFile))
    (isFilled : IsFilled environment (boundIn bindings files (chosen.getD defaultFile)) filled) :
    loadBy reader environment files chosen = ofEnvironment filled := by
  obtain ⟨other, completed, isFilledToo⟩ := exists_completedBy assigns
  rw [loadBy, completed]
  exact ofEnvironment_congr fun name _ => (isFilledToo name).trans (isFilled name).symm

end

/-- How settings are loaded, for every reader of files, every environment and all files. Where the
reader keeps the law, the settings are those of an environment that has in addition the variables of
the file that the environment does not hold, loaded without any file: the settings or the first
fault that this environment determines. A chosen file leaves no part to the default one: whether
there is one, and what is in it, makes no difference. And settings that are loaded are in range,
with no law assumed: there is a generator of their seed, and their level has its name.

The law excludes readers that let a file win over the environment or that fail over a missing file;
with one of these the first part would be wrong.

Proof: the settings depend on four variables only, and the environment that the reader leaves has
the same values of them as any other that is filled in the same way. -/
theorem load_determined (reader : FileReader) (bindings : String → List EnvFile.Binding)
    (environment : Texts) (files : Files) (chosen : Option Text) :
    (reader.Assigns bindings environment files (chosen.getD defaultFile) →
      (∃ filled, IsFilled environment (boundIn bindings files (chosen.getD defaultFile)) filled) ∧
        ∀ filled, IsFilled environment (boundIn bindings files (chosen.getD defaultFile)) filled →
          loadBy reader environment files chosen = loadBy reader filled [] none ∧
            ∀ outcome,
              loadBy reader environment files chosen = outcome ↔ Determines filled outcome) ∧
      (∀ name others, chosen = some name → fileParts? name ≠ fileParts? defaultFile →
        AlikeButDefault files others → reader.Assigns bindings environment files name →
          reader.Assigns bindings environment others name →
            loadBy reader environment others chosen = loadBy reader environment files chosen) ∧
      ∀ settings, loadBy reader environment files chosen = .ok settings →
        (1 ≤ settings.seed ∧ settings.seed ≤ 65535) ∧ 0 ≤ settings.limit ∧
          settings.level.name ∈
            (["DEBUG", "INFO", "WARNING", "ERROR", "CRITICAL"] : List Text) ∧
          (∃ generator, Generator.ofSeed settings.seed = .ok generator) ∧
          Level.ofName? settings.level.name = some settings.level := by
  refine ⟨fun assigns => ⟨?_, ?_⟩, ?_, ?_⟩
  · obtain ⟨filled, _, isFilled⟩ := assigns.exists_isFilled
    exact ⟨filled, isFilled⟩
  · intro filled isFilled
    rw [loadBy_nil, loadBy_eq_ofEnvironment chosen assigns isFilled]
    exact ⟨rfl, fun outcome => determines_iff.symm⟩
  · rintro name others rfl other alike assigns assignsToo
    obtain ⟨filled, _, isFilled⟩ := assigns.exists_isFilled
    have isFilledToo : IsFilled environment (boundIn bindings others name) filled := by
      rwa [boundIn, alike name other]
    rw [loadBy_eq_ofEnvironment (some name) assigns isFilled,
      loadBy_eq_ofEnvironment (some name) assignsToo isFilledToo]
  · intro settings loaded
    obtain ⟨filled, found⟩ := exists_ofEnvironment_of_loadBy loaded
    cases determines_iff.mpr found with
    | settings isSeed isLimit isLevel =>
      refine ⟨⟨isSeed.positive, isSeed.fits⟩, isLimit.nonneg, ?_, isSeed.exists_generator,
        Level.ofName?_eq_some_iff.mpr rfl⟩
      exact List.mem_map_of_mem (Level.mem_all _)

/-- A default file with an unknown level, and another file that sets the seed, the limit twice and
the level. -/
def twoFiles : Files :=
  [(".env", "FIXTURE_LOG_LEVEL=loud\n"),
    ("bench.env",
      "FIXTURE_SEED=7\nFIXTURE_MAX_SIZE=5\nFIXTURE_MAX_SIZE=9\nFIXTURE_LOG_LEVEL=debug\n")]

/-- With the reader that the program is run with, an empty seed in the environment and the other
file chosen, the seed is the default one, the limit is the last one of the file and the level is
that of the file; and the default file makes no difference. -/
theorem load_twoFiles :
    load [(seedName, "")] twoFiles (some "bench.env") =
        .ok ⟨62381, 9, .debug, "http://localhost:3000"⟩ ∧
      load [(seedName, "")] (withoutDefault twoFiles) (some "bench.env") =
        load [(seedName, "")] twoFiles (some "bench.env") ∧
      ∃ generator, Generator.ofSeed 62381 = .ok generator := by
  obtain ⟨determined, apart, valid⟩ :=
    load_determined envFileReader (textBindings [(seedName, "")]) [(seedName, "")] twoFiles
      (some "bench.env")
  have alike := alikeButDefault_withoutDefault twoFiles
  let bound : List EnvFile.Binding :=
    [(seedName, some "7"), (limitName, some "5"), (limitName, some "9"), (levelName, some "debug")]
  have found : boundIn (textBindings [(seedName, "")]) twoFiles "bench.env" = bound := by
    have plain : ∀ binding ∈ bound, ∀ value ∈ binding.2, .character '$' ∉ value.symbols := by
      decide
    exact EnvFile.expandAfter_of_plain plain _ _
  have assigns {files : Files}
      (same : fileText? files "bench.env" = fileText? twoFiles "bench.env") :
      envFileReader.Assigns (textBindings [(seedName, "")]) [(seedName, "")] files "bench.env" := by
    have sameBound : boundIn (textBindings [(seedName, "")]) files "bench.env" = bound := by
      rw [boundIn, same]
      exact found
    have passes : ∀ binding ∈ bound, ∀ value ∈ binding.2,
        entryFault? (binding.1, value) = none := by decide
    refine envFileReader_assigns (by decide) (by decide) fun name value _ valued => ?_
    rw [sameBound] at valued
    exact passes _ (mem_of_lastValue? valued) value rfl
  have loaded : load [(seedName, "")] twoFiles (some "bench.env") =
      .ok ⟨62381, 9, .debug, "http://localhost:3000"⟩ := by
    obtain ⟨⟨filled, isFilled⟩, outcomes⟩ := determined (assigns rfl)
    have values : ∀ name ∈ variableNames, filled.lookup name =
        List.lookup name ([(seedName, ""), (limitName, "9"), (levelName, "debug")] : Texts) := by
      rw [Option.getD_some, found] at isFilled
      simp only [isFilled _]
      decide
    refine ((outcomes filled isFilled).2 _).mpr (determines_iff.mpr ?_)
    rw [ofEnvironment_congr values]
    rfl
  have unaffected := apart "bench.env" (withoutDefault twoFiles) rfl (by decide) alike (assigns rfl)
    (assigns (alike "bench.env" (by decide)))
  exact ⟨loaded, unaffected, (valid _ loaded).2.2.2.1⟩

end Settings

end SortBench
