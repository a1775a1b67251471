import SortBench.Proofs.CommandLine.Seeds
import SortBench.Proofs.FrontEnds.Drawing
import SortBench.Proofs.Numeral.Literals
import SortBench.Proofs.Settings.Seeded

/-!
# A seed on the command line and in the environment

The command line reads a seed when it reads its arguments, and checks it when the values are drawn.
A seed of the environment is read and checked when the settings are loaded, before anything is
drawn. Either way a text that denotes a seed draws its successors, and any other text is a misuse.
The separator makes the one difference: as a seed of the environment it is a misuse like other
texts, but on the command line it is taken away, and the seed that is then missing is a fault that
the command does not expect.
-/

namespace SortBench

open Numeral (IsShort Denotes)
open Service (DrawRequest)

/-- A site with a seed in its environment, in front of whatever else is set there. -/
def Site.withSeed (site : Site) (text : Text) : Site :=
  { site with environment := Settings.seeded text site.environment }

/-- Values that are drawn are the successors of the register. The successors are integers, and are
put back into registers here. -/
theorem Generator.draw_eq_map_toNat (generator : Generator) (count : Nat) :
    (generator.draw count).1 =
      (Register.successors generator.register count).map Int.toNat := by
  rw [← draw_eq_successors, List.map_map]
  exact (List.map_id _).symm

/-- A text that denotes a seed is read as this seed, and no other text is. A seed is short in every
base, so the limit on digits does not come into it. -/
theorem Numeral.readLiteral_eq_ok_iff_of_seed {text : Text} {seed : Int}
    (seeded : 1 ≤ seed ∧ seed ≤ 65535) : readLiteral text = .ok seed ↔ Denotes text seed :=
  readLiteral_eq_ok_iff (by omega) (isShort_of_lt (by omega))

namespace CommandLine

variable {site : Site} {settings : Settings} {text : Text}

/-- A request for a short number of values prints the successors of its seed if it can be met, and
is a misuse if not. The number has to be short, as the text of a refusal names it. -/
theorem run_request (loaded : Settings.load site.environment site.files none = .ok settings)
    (request : DrawRequest) (short : IsShort request.count) {arguments : List Text}
    {hexadecimal : Bool}
    (asked : Request.ofArguments (Usage.lineWidth (site.environment.lookup Usage.columnsName))
      site.registry.names arguments =
        .ok ⟨none, none, .draw (request.seed.map some) (some request.count) hexadecimal⟩) :
    (request.IsAcceptable settings → ∃ ending, run site arguments = .ok ending ∧
        ending.code = succeeded ∧
        ending.output = drawnOutput hexadecimal
          ((Register.successors (request.seed.getD settings.seed) request.count.toNat).map
            Int.toNat)) ∧
      (¬ request.IsAcceptable settings → ∃ ending, run site arguments = .ok ending ∧
        ending.code = misused ∧ ending.output = "") := by
  constructor
  · intro acceptable
    obtain ⟨generator, register, drawn, _⟩ := Service.drawn_of_isAcceptable acceptable
    rw [← register, ← generator.draw_eq_map_toNat]
    exact run_asked_drawn loaded asked drawn
  · intro unacceptable
    obtain ⟨⟨cause, refused, named⟩, _⟩ := Service.refused_of_not_isAcceptable unacceptable
    exact run_asked_undrawn loaded asked refused (named short)

/-- On the command line a seed draws its successors, and any text but the separator that is no seed,
or that comes with a number that is not within the limit, is a misuse. Texts that are no literals,
literals out of range and numbers beyond the limit are refused at three different places, and end
alike. -/
theorem run_seedArguments
    (loaded : Settings.load site.environment site.files none = .ok settings) (written : text ≠ "")
    (apart : text ≠ separator) (count : Int) (hexadecimal : Bool) :
    (∀ seed, Numeral.readLiteral text = .ok seed → 1 ≤ seed ∧ seed ≤ 65535 →
        0 ≤ count ∧ count ≤ settings.limit →
        ∃ ending, run site (seedArguments text count hexadecimal) = .ok ending ∧
          ending.code = succeeded ∧
          ending.output = drawnOutput hexadecimal
            ((Register.successors seed count.toNat).map Int.toNat)) ∧
      ((∀ seed, Numeral.readLiteral text = .ok seed → 1 ≤ seed ∧ seed ≤ 65535 →
          ¬ (0 ≤ count ∧ count ≤ settings.limit)) →
        ∃ ending, run site (seedArguments text count hexadecimal) = .ok ending ∧
          ending.code = misused ∧ ending.output = "") := by
  have filled : text.symbols ≠ [] := fun empty => written (congrArg Text.mk empty)
  have asked := ofArguments_seed (Usage.lineWidth (site.environment.lookup Usage.columnsName))
    site.registry.names filled apart count hexadecimal
  constructor
  · intro seed reads seeded counted
    have acceptable : DrawRequest.IsAcceptable ⟨some seed, count⟩ settings :=
      ⟨counted.2, seeded, counted.1⟩
    have short := (DrawRequest.isShort_iff _).mp
      (acceptable.isShort (Settings.isShort_limit loaded))
    exact (run_request loaded ⟨some seed, count⟩ short.2 (asked.1 seed reads short.2)).1 acceptable
  · intro unfit
    by_cases readable : ∃ seed, Numeral.readLiteral text = .ok seed ∧ IsShort count
    · obtain ⟨seed, reads, short⟩ := readable
      refine (run_request loaded ⟨some seed, count⟩ short (asked.1 seed reads short)).2 ?_
      rintro ⟨within, seeded, counted⟩
      exact unfit seed reads seeded ⟨counted, within⟩
    · obtain ⟨line, refused⟩ := asked.2 fun seed reads short => readable ⟨seed, reads, short⟩
      exact run_refused refused

/-- In the environment a seed draws its successors as well, and any text that is no seed, or that
comes with a number that is not within the limit, is a misuse. Here the text is looked at when the
settings are loaded, after the arguments were read. -/
theorem run_withSeed
    (right : Settings.RightButSeed site.environment site.files text settings)
    (written : text ≠ "") (count : Int) (hexadecimal : Bool) :
    (∀ seed, Numeral.readLiteral text = .ok seed → 1 ≤ seed ∧ seed ≤ 65535 →
        0 ≤ count ∧ count ≤ settings.limit →
        ∃ ending, run (site.withSeed text) (drawArguments none count hexadecimal) = .ok ending ∧
          ending.code = succeeded ∧
          ending.output = drawnOutput hexadecimal
            ((Register.successors seed count.toNat).map Int.toNat)) ∧
      ((∀ seed, Numeral.readLiteral text = .ok seed → 1 ≤ seed ∧ seed ≤ 65535 →
          ¬ (0 ≤ count ∧ count ≤ settings.limit)) →
        ∃ ending, run (site.withSeed text) (drawArguments none count hexadecimal) = .ok ending ∧
          ending.code = misused ∧ ending.output = "") := by
  obtain ⟨accepted, refused⟩ := right.load_seeded written
  have asked := ofArguments_draw
    (Usage.lineWidth ((site.withSeed text).environment.lookup Usage.columnsName))
    (site.withSeed text).registry.names none count hexadecimal
  constructor
  · intro seed reads seeded counted
    obtain ⟨other, loaded, rfl, limit⟩ := accepted seed reads seeded
    have acceptable : DrawRequest.IsAcceptable ⟨none, count⟩ other :=
      ⟨limit ▸ counted.2, seeded, counted.1⟩
    have short := (DrawRequest.isShort_iff _).mp
      (acceptable.isShort (Settings.isShort_limit loaded))
    exact (run_request loaded ⟨none, count⟩ short.2 (asked.1 short)).1 acceptable
  · intro unfit
    by_cases short : (∀ number ∈ (none : Option Int), IsShort number) ∧ IsShort count
    · by_cases readable : ∃ seed, Numeral.readLiteral text = .ok seed ∧ 1 ≤ seed ∧ seed ≤ 65535
      · obtain ⟨seed, reads, seeded⟩ := readable
        obtain ⟨other, loaded, _, limit⟩ := accepted seed reads seeded
        refine (run_request loaded ⟨none, count⟩ short.2 (asked.1 short)).2 ?_
        rintro ⟨within, _, counted⟩
        exact unfit seed reads seeded ⟨counted, limit ▸ within⟩
      · obtain ⟨fault, wrong⟩ := refused fun seed reads seeded => readable ⟨seed, reads, seeded⟩
        exact run_misconfigured (asked.1 short) wrong
    · obtain ⟨line, stopped⟩ := asked.2 short
      exact run_refused stopped

/-- In the place of a seed on the command line the separator leaves the seed missing, which is a
fault that is handed on, unless the number of values is refused first. -/
theorem run_separator (loaded : Settings.load site.environment site.files none = .ok settings)
    (count : Int) (hexadecimal : Bool) :
    (IsShort count ∧ count ≤ settings.limit →
        run site (seedArguments separator count hexadecimal) = .error seedMissing) ∧
      (¬ (IsShort count ∧ count ≤ settings.limit) →
        ∃ ending, run site (seedArguments separator count hexadecimal) = .ok ending ∧
          ending.code = misused ∧ ending.output = "") := by
  have asked := ofArguments_separator
    (Usage.lineWidth (site.environment.lookup Usage.columnsName)) site.registry.names count
    hexadecimal
  constructor
  · rintro ⟨short, within⟩
    have counted : checkedCount settings.limit (some count) = .ok count :=
      if_neg (Int.not_lt.mpr within)
    have missing : drawValues settings (some none) (some count) = .error seedMissing := by
      rw [drawValues, counted]
      rfl
    have ran : ((Command.draw (some none) (some count) hexadecimal).perform site settings).run.run
        (started settings) = (.error seedMissing, started settings) := by
      rw [Command.perform_draw, missing]
      rfl
    exact run_uncaught (asked.1 short) loaded ran rfl
  · intro beyond
    by_cases short : IsShort count
    · have refused : drawValues settings (some none) (some count) =
          .error (.precondition (.countBeyondLimit count settings.limit)) := by
        have checked : checkedCount settings.limit (some count) =
            .error (.precondition (.countBeyondLimit count settings.limit)) :=
          if_pos (Int.not_le.mp fun within => beyond ⟨short, within⟩)
        rw [drawValues, checked]
      exact run_asked_undrawn loaded (asked.1 short) refused (List.forall_mem_singleton.mpr short)
    · obtain ⟨line, stopped⟩ := asked.2 short
      exact run_refused stopped

end CommandLine

open CommandLine

/-- A seed means the same on the command line and in the environment, for every text that is not
empty, every number of values and both forms, wherever the settings are right but for the seed, in
particular where no other seed is set. If the text denotes a seed, written in any base, and the
number is within the limit, both runs list the successors of the seed, in the same output. If not,
the run with the seed in the environment is a misuse without output; and so is the run with the seed
on the command line, unless the text is the separator and the number is not refused, when the seed
is missing.

Proof: each way of giving the seed is settled on its own, by what the text is read as. A text
denotes a seed exactly if it is read as this, so both are compared with the successors of one
integer. -/
theorem seeds_alike {site : Site} {text : Text} {settings : Settings}
    (right : Settings.RightButSeed site.environment site.files text settings)
    (written : text ≠ "") (count : Int) (hexadecimal : Bool) :
    (∀ seed, Denotes text seed → 1 ≤ seed ∧ seed ≤ 65535 → 0 ≤ count ∧ count ≤ settings.limit →
        ∃ (values : List Nat) (first second : Ending),
          values.map (Nat.cast : Nat → Int) = Register.successors seed count.toNat ∧
          run site (seedArguments text count hexadecimal) = .ok first ∧
          run (site.withSeed text) (drawArguments none count hexadecimal) = .ok second ∧
          first.Lists hexadecimal values ∧ second.Lists hexadecimal values ∧
          first.output = second.output) ∧
      ((∀ seed, Denotes text seed → 1 ≤ seed ∧ seed ≤ 65535 →
          ¬ (0 ≤ count ∧ count ≤ settings.limit)) →
        (∃ ending, run (site.withSeed text) (drawArguments none count hexadecimal) = .ok ending ∧
          ending.code = misused ∧ ending.output = "") ∧
        (¬ (text = separator ∧ IsShort count ∧ count ≤ settings.limit) →
          ∃ ending, run site (seedArguments text count hexadecimal) = .ok ending ∧
            ending.code = misused ∧ ending.output = "") ∧
        (text = separator ∧ IsShort count ∧ count ≤ settings.limit →
          run site (seedArguments text count hexadecimal) = .error seedMissing)) := by
  have fromEnvironment := run_withSeed right written count hexadecimal
  constructor
  · intro seed denotes seeded counted
    have reads := (Numeral.readLiteral_eq_ok_iff_of_seed seeded).mpr denotes
    have apart : text ≠ separator := by
      rintro rfl
      cases reads
    obtain ⟨first, ran, code, output⟩ :=
      (run_seedArguments right.loaded written apart count hexadecimal).1 seed reads seeded counted
    obtain ⟨second, ranToo, codeToo, outputToo⟩ := fromEnvironment.1 seed reads seeded counted
    obtain ⟨zero, _⟩ | ⟨_, outside, _⟩ | ⟨generator, _, _, _, register⟩ :=
      Generator.ofSeed_cases seed
    · omega
    · omega
    · rw [← register, ← generator.draw_eq_map_toNat] at output outputToo
      have fit := generator.draw_le_top count.toNat
      refine ⟨(generator.draw count.toNat).1, first, second, ?_, ran, ranToo,
        first.lists_of_output code output fit, second.lists_of_output codeToo outputToo fit,
        output.trans outputToo.symm⟩
      rw [← register]
      exact generator.draw_eq_successors count.toNat
  · intro unfit
    have unread : ∀ seed, Numeral.readLiteral text = .ok seed → 1 ≤ seed ∧ seed ≤ 65535 →
        ¬ (0 ≤ count ∧ count ≤ settings.limit) := fun seed reads =>
      unfit seed (Denotes.of_readLiteral reads)
    refine ⟨fromEnvironment.2 unread, fun regular => ?_, ?_⟩
    · by_cases separated : text = separator
      · subst separated
        exact (run_separator right.loaded count hexadecimal).2 fun within => regular ⟨rfl, within⟩
      · exact (run_seedArguments right.loaded written separated count hexadecimal).2 unread
    · rintro ⟨rfl, within⟩
      exact (run_separator right.loaded count hexadecimal).1 within

/-- A site with a limit of five, and with a file that sets the level. -/
def leveledSite : Site :=
  { environment := [(Settings.limitName, "5")], files := [(".env", "FIXTURE_LOG_LEVEL=debug\n")] }

/-- With a limit of five, a hexadecimal literal with padding, a sign and an underscore draws two
successors of its seed, and zero, which is no seed, is a misuse, either way. -/
theorem seeds_alike_marked :
    Settings.RightButSeed leveledSite.environment leveledSite.files " +0x_1F "
        ⟨Register.defaultSeed, 5, .debug, Settings.defaultFrontend⟩ ∧
      (" +0x_1F " : Text) ≠ "" ∧ ("-0" : Text) ≠ "" ∧
      (∃ (values : List Nat) (first second : Ending),
        values.map (Nat.cast : Nat → Int) = Register.successors 31 2 ∧
        run leveledSite (seedArguments " +0x_1F " 2 false) = .ok first ∧
        run (leveledSite.withSeed " +0x_1F ") (drawArguments none 2 false) = .ok second ∧
        first.Lists false values ∧ second.Lists false values ∧ first.output = second.output) ∧
      (∃ ending, run (leveledSite.withSeed "-0") (drawArguments none 2 true) = .ok ending ∧
        ending.code = misused ∧ ending.output = "") ∧
      ∃ ending, run leveledSite (seedArguments "-0" 2 true) = .ok ending ∧
        ending.code = misused ∧ ending.output = "" := by
  have loaded : Settings.load leveledSite.environment leveledSite.files none =
      .ok ⟨Register.defaultSeed, 5, .debug, Settings.defaultFrontend⟩ := by decide +kernel
  have unreferenced : EnvFile.Unreferenced Settings.seedName
      (Settings.fileBindings leveledSite.files none) := .of_plain (by decide) _
  have right := Settings.RightButSeed.of_unreferenced unreferenced loaded
  have denotes : Denotes " +0x_1F " 31 := Denotes.of_readLiteral (by decide +kernel)
  have written : (" +0x_1F " : Text) ≠ "" := by decide
  have writtenZero : ("-0" : Text) ≠ "" := by decide
  have zero : ∀ seed, Denotes "-0" seed → 1 ≤ seed ∧ seed ≤ 65535 →
      ¬ ((0 : Int) ≤ 2 ∧ (2 : Int) ≤ 5) := by
    intro seed denotes seeded _
    have reads := (Numeral.readLiteral_eq_ok_iff_of_seed seeded).mpr denotes
    have readsZero : Numeral.readLiteral "-0" = .ok 0 := by decide +kernel
    rw [readsZero] at reads
    cases reads
    exact absurd seeded.1 (by decide)
  obtain ⟨misusedFirst, misusedSecond, _⟩ := (seeds_alike (right "-0") writtenZero 2 true).2 zero
  refine ⟨right _, written, writtenZero, ?_, misusedFirst, misusedSecond (by decide)⟩
  exact (seeds_alike (right " +0x_1F ") written 2 false).1 31 denotes (by decide) (by decide)

/-- One value is asked for, and the separator is given as the seed. On the command line this is a
fault that is handed on, and in the environment a misuse. -/
theorem separator_missing :
    run {} ["lfsr", "--seed=--", "--count=1"] = .error seedMissing ∧
      ∃ ending, run (Site.withSeed {} "--") ["lfsr", "--count=1"] = .ok ending ∧
        ending.code = misused ∧ ending.output = "" := by
  let site : Site := {}
  have loaded : Settings.load site.environment site.files none = .ok (.limited 10000) := by
    decide +kernel
  have right : Settings.RightButSeed site.environment site.files "--" (.limited 10000) :=
    .of_unreferenced (fun _ member => absurd member List.not_mem_nil) loaded "--"
  have unread : ∀ seed, Numeral.readLiteral "--" = .ok seed → 1 ≤ seed ∧ seed ≤ 65535 →
      ¬ ((0 : Int) ≤ 1 ∧ (1 : Int) ≤ 10000) := fun _ => nofun
  exact ⟨(run_separator loaded 1 false).1 (by decide),
    (run_withSeed right (by decide) 1 false).2 unread⟩

end SortBench
