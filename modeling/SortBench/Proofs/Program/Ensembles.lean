import SortBench.Program.Ensemble
import SortBench.Proofs.Register.Courses

/-!
# The shared generator among others

Whatever is asked of owned generators, and whatever inputs are built for programs, the shared
generator answers as if it were alone: its answers are those that it gives to the demands that
concern it, and so is the generator in the end. It starts from the default seed, so it is in step
after any demands.
-/

namespace SortBench

namespace Ensemble

open Generator (meetEach)

/-- What a demand asks of the shared generator, if it concerns that one. -/
def Demand.ofShared? : Demand → Option Generator.Demand
  | .shared (.draw times) => some (.stream times)
  | .shared (.reseed seed) => some (.reseed seed)
  | _ => none

/-- The answers to the demands that concern the shared generator. -/
def sharedAnswers (demands : List Demand) (answers : List (Except Precondition (List Value))) :
    List (Except Precondition (List Value)) :=
  ((demands.zip answers).filter fun met => met.1.ofShared?.isSome).map Prod.snd

/-- The shared generator answers what concerns it, and only it changes. -/
theorem meet_shared (ensemble : Ensemble) {demand : Demand} {own : Generator.Demand}
    (concerns : demand.ofShared? = some own) :
    ensemble.meet demand =
      (Shared.valuesOf (ensemble.shared.meet own).1,
        { ensemble with shared := (ensemble.shared.meet own).2 }) := by
  cases demand with
  | shared demand =>
    cases demand with
    | draw times =>
      cases concerns
      rfl
    | reseed seed =>
      cases concerns
      rfl
    | input spec => cases concerns
    | own count => cases concerns
  | start seed => cases concerns
  | owned position demand => cases concerns

/-- Nothing else changes the shared generator, in particular not the building of an input from the
register, for which a program has a generator of its own. -/
theorem meet_other (ensemble : Ensemble) {demand : Demand} (other : demand.ofShared? = none) :
    (ensemble.meet demand).2.shared = ensemble.shared := by
  cases demand with
  | shared demand =>
    cases demand with
    | draw times => cases other
    | reseed seed => cases other
    | input spec => rfl
    | own count => rfl
  | start seed =>
    rw [meet]
    cases Generator.ofSeed seed with
    | ok generator => rfl
    | error cause => rfl
  | owned position demand =>
    rw [meet]
    cases ensemble.owned[position]? with
    | none => rfl
    | some generator => rfl

/-- The shared generator answers and changes as it would alone. Demands of other kinds may stand
between its own in any number. -/
theorem meetEach_shared (ensemble : Ensemble) (demands : List Demand) :
    (meetEach meet ensemble demands).2.shared =
        (meetEach Generator.meet ensemble.shared (demands.filterMap Demand.ofShared?)).2 ∧
      sharedAnswers demands (meetEach meet ensemble demands).1 =
        (meetEach Generator.meet ensemble.shared (demands.filterMap Demand.ofShared?)).1.map
          Shared.valuesOf := by
  induction demands generalizing ensemble with
  | nil => exact ⟨rfl, rfl⟩
  | cons demand later inductionHypothesis =>
    obtain ⟨final, answers⟩ := inductionHypothesis (ensemble.meet demand).2
    unfold sharedAnswers at answers ⊢
    cases concerns : demand.ofShared? with
    | none =>
      rw [meet_other ensemble concerns] at final answers
      rw [List.filterMap_cons_none concerns]
      refine ⟨final, ?_⟩
      rw [meetEach, List.zip_cons_cons, List.filter_cons_of_neg (by simp [concerns])]
      exact answers
    | some own =>
      rw [meet_shared ensemble concerns] at final answers
      rw [List.filterMap_cons_some concerns]
      refine ⟨?_, ?_⟩
      · rw [meetEach, meet_shared ensemble concerns]
        exact final
      · rw [meetEach, meet_shared ensemble concerns, List.zip_cons_cons,
          List.filter_cons_of_pos (by simp [concerns]), List.map_cons]
        exact congrArg _ answers

end Ensemble

open Ensemble in
/-- A generator that starts from an accepted seed is in step after any demands, refused ones among
them. So is the shared generator after the demands that concern it, whatever else is asked in
between of programs and owned generators: it answers and changes as it would alone.

Proof: by induction on the demands, with the course of the generator as the invariant. Demands of
other kinds leave the shared generator as it is, so they drop out of its history. -/
theorem Generator.stays_inStep :
    (∀ seed : Int, 1 ≤ seed ∧ seed ≤ 65535 →
        ∃ start, ofSeed seed = .ok start ∧ ∀ demands, start.InStep seed demands) ∧
      ∀ (owned : List Generator) (demands : List Ensemble.Demand),
        default.InStep 0xF3AD (demands.filterMap Ensemble.Demand.ofShared?) ∧
          (meetEach Ensemble.meet { shared := default, owned } demands).2.shared =
            (meetEach meet default (demands.filterMap Ensemble.Demand.ofShared?)).2 ∧
          sharedAnswers demands
              (meetEach Ensemble.meet { shared := default, owned } demands).1 =
            (meetEach meet default (demands.filterMap Ensemble.Demand.ofShared?)).1.map
              Shared.valuesOf := by
  constructor
  · intro seed inside
    obtain ⟨zero, _⟩ | ⟨_, outside, _⟩ | ⟨start, _, _, started, register⟩ := ofSeed_cases seed
    · omega
    · omega
    · exact ⟨start, started, inStep_of_register inside register⟩
  · intro owned demands
    refine ⟨inStep_of_register (by decide) rfl _, ?_⟩
    exact meetEach_shared { shared := default, owned } demands

/-- From the seed one, a refused seed between two draws changes nothing. -/
theorem Generator.stays_inStep_one :
    ∃ start, ofSeed 1 = .ok start ∧ start.InStep 1 [.take 2, .reseed 0, .stream 1] ∧
      (meetEach meet start [.take 2, .reseed 0, .stream 1]).1 =
        [.ok [32768, 16384], .error .zeroSeed, .ok [8192]] := by
  obtain ⟨start, started, steps⟩ := stays_inStep.1 1 (by decide)
  refine ⟨start, started, steps _, ?_⟩
  cases started
  rfl

end SortBench
