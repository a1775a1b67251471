import SortBench.Proofs.Register.Draws
import SortBench.Register.Demand

/-!
# The course of a generator

However demands on a generator are mixed, two things tell where it is: the seed that it was last
given, and the values that were drawn since. These are its *course*. Together the values drawn are
the successors of the seed, none left out and none twice, and the register is the last of them, or
the seed when there are none. A demand that is refused leaves the generator and its course as they
are.

One demand is met in one of three ways. A run of demands follows from these by induction, with the
course as it is at the start left open.
-/

namespace SortBench

namespace Register

/-- What follows an integer is what follows it first, and then what follows the last of that.
Drawing in two parts is drawing at once. -/
theorem successors_add (register : Int) (m n : Nat) :
    successors register (m + n) = successors register m ++ successors (step^[m] register) n := by
  induction m generalizing register with
  | zero => simp [successors]
  | succ m inductionHypothesis =>
    rw [Nat.succ_add, successors_succ, successors_succ, inductionHypothesis,
      Function.iterate_succ_apply]
    rfl

end Register

namespace Generator

open Register

theorem length_draw (generator : Generator) (count : Nat) :
    (generator.draw count).1.length = count := by
  have drawn := congrArg List.length (draw_eq_successors generator count)
  rwa [List.length_map, length_successors] at drawn

/-- Drawing values steps the register as often. The values drawn before are carried along and play
no part. -/
theorem register_drawOnto (drawn : List Nat) (count : Nat) (generator : Generator) :
    ((drawOnto drawn count generator).2.register : Int) = step^[count] generator.register := by
  induction count generalizing drawn generator with
  | zero => rfl
  | succ count inductionHypothesis =>
    rw [drawOnto, inductionHypothesis, next_register, Function.iterate_succ_apply]

/-- After values were drawn, the register is as many steps further. -/
theorem register_draw (generator : Generator) (count : Nat) :
    ((generator.draw count).2.register : Int) = step^[count] generator.register :=
  register_drawOnto [] count generator

namespace Demand

/-- Why a demand is refused: a negative number of values; a seed that is zero or beyond the
register. -/
def refusal? : Demand → Option Precondition
  | next => none
  | take count => if count < 0 then some (.negativeCount count) else none
  | stream _ => none
  | reseed seed =>
    if seed = 0 then some .zeroSeed
    else if seed < 1 ∨ 65535 < seed then some (.seedOutOfRange seed)
    else none

/-- How many values a demand asks for. -/
def count : Demand → Nat
  | next => 1
  | take count => count.toNat
  | stream count => count
  | reseed _ => 0

end Demand

/-- A refused demand leaves the generator as it is: it has neither stepped nor taken the new
seed. -/
theorem meet_refused (generator : Generator) {demand : Demand} {cause : Precondition}
    (refused : demand.refusal? = some cause) :
    generator.meet demand = (.error cause, generator) := by
  cases demand with
  | next => cases refused
  | stream count => cases refused
  | take count =>
    rw [Demand.refusal?] at refused
    rw [meet]
    obtain ⟨negative, taken⟩ | ⟨counted, _⟩ := generator.take_cases count
    · rw [if_pos negative] at refused
      cases refused
      rw [taken]
    · rw [if_neg (by omega)] at refused
      cases refused
  | reseed seed =>
    rw [Demand.refusal?] at refused
    rw [meet, reseed]
    obtain ⟨zero, started⟩ | ⟨nonzero, outside, started⟩ | ⟨_, nonzero, inside, _⟩ :=
      ofSeed_cases seed
    · rw [if_pos zero] at refused
      cases refused
      rw [started]
    · rw [if_neg nonzero, if_pos outside] at refused
      cases refused
      rw [started]
    · rw [if_neg nonzero, if_neg inside] at refused
      cases refused

/-- A new seed that is not refused becomes the register. -/
theorem meet_reseed (generator : Generator) {seed : Int}
    (accepted : (Demand.reseed seed).refusal? = none) :
    (1 ≤ seed ∧ seed ≤ 65535) ∧ ∃ after, generator.meet (.reseed seed) = (.ok [], after) ∧
      (after.register : Int) = seed := by
  rw [Demand.refusal?] at accepted
  rw [meet, reseed]
  obtain ⟨zero, _⟩ | ⟨nonzero, outside, _⟩ | ⟨after, _, inside, started, register⟩ :=
    ofSeed_cases seed
  · rw [if_pos zero] at accepted
    cases accepted
  · rw [if_neg nonzero, if_pos outside] at accepted
    cases accepted
  · rw [started]
    exact ⟨by omega, after, rfl, register⟩

/-- Any other demand that is not refused draws as many values as it asks for. -/
theorem meet_draws (generator : Generator) {demand : Demand} (accepted : demand.refusal? = none)
    (draws : ∀ seed, demand ≠ .reseed seed) :
    generator.meet demand =
      (.ok (generator.draw demand.count).1, (generator.draw demand.count).2) := by
  cases demand with
  | next => rfl
  | stream count => rfl
  | reseed seed => exact absurd rfl (draws seed)
  | take count =>
    rw [Demand.refusal?] at accepted
    by_cases negative : count < 0
    · rw [if_pos negative] at accepted
      cases accepted
    · rw [meet, take, if_neg negative]
      rfl

/-- Where a generator is: the seed that it was last given, and the values drawn since. -/
structure Course where
  /-- The seed. -/
  seed : Int
  /-- The values, in order. -/
  drawn : List Nat
  deriving DecidableEq, Repr

namespace Course

/-- The course after a demand, by the answer to it. Only what was answered is used, so the course
can be kept by whoever sees demands and answers. -/
def extend (course : Course) : Demand × Except Precondition (List Nat) → Course
  | (_, .error _) => course
  | (.reseed seed, .ok _) => { seed, drawn := [] }
  | (_, .ok values) => { course with drawn := course.drawn ++ values }

/-- The course from a seed on, by the demands that were met and the answers to them. -/
def record (seed : Int) (demands : List Demand) (answers : List (Except Precondition (List Nat))) :
    Course :=
  (demands.zip answers).foldl extend { seed, drawn := [] }

end Course

/-- A generator follows a course: the seed is one that is accepted, the values drawn are its
successors in order, and the register is as many steps from it. -/
structure Follows (generator : Generator) (course : Course) : Prop where
  /-- The seed is in its range. -/
  accepted : 1 ≤ course.seed ∧ course.seed ≤ 65535
  /-- The values drawn are the successors of the seed. -/
  drawn : course.drawn.map (Nat.cast : Nat → Int) = successors course.seed course.drawn.length
  /-- The register is the last of them. -/
  register : (generator.register : Int) = step^[course.drawn.length] course.seed

/-- A generator that starts from a seed follows the course from there. -/
theorem follows_ofSeed {seed : Int} {generator : Generator} (inside : 1 ≤ seed ∧ seed ≤ 65535)
    (register : (generator.register : Int) = seed) : generator.Follows { seed, drawn := [] } :=
  ⟨inside, by simp [successors], register⟩

namespace Follows

variable {generator : Generator} {course : Course}

/-- Values that are drawn continue the course. -/
theorem draw (follows : generator.Follows course) (count : Nat) :
    (generator.draw count).2.Follows
      { course with drawn := course.drawn ++ (generator.draw count).1 } := by
  obtain ⟨accepted, drawn, register⟩ := follows
  refine ⟨accepted, ?_, ?_⟩
  · rw [List.map_append, drawn, draw_eq_successors, register, ← successors_add, List.length_append,
      length_draw]
  · rw [register_draw, register, ← Function.iterate_add_apply, List.length_append, length_draw,
      Nat.add_comm]

/-- A generator that followed its course follows it after a demand. This is the step, by the kind of
the demand and whether it is refused. -/
theorem meet (follows : generator.Follows course) (demand : Demand) :
    (generator.meet demand).2.Follows (course.extend (demand, (generator.meet demand).1)) := by
  cases refusal : demand.refusal? with
  | some cause =>
    rw [meet_refused generator refusal]
    exact follows
  | none =>
    by_cases reseeds : ∃ seed, demand = .reseed seed
    · obtain ⟨seed, rfl⟩ := reseeds
      obtain ⟨inside, after, met, register⟩ := meet_reseed generator refusal
      rw [met]
      exact follows_ofSeed inside register
    · have draws : ∀ seed, demand ≠ .reseed seed := fun seed same => reseeds ⟨seed, same⟩
      have extended (values : List Nat) :
          course.extend (demand, .ok values) = { course with drawn := course.drawn ++ values } := by
        cases demand with
        | reseed seed => exact absurd rfl (draws seed)
        | _ => rfl
      rw [meet_draws generator refusal draws, extended]
      exact follows.draw demand.count

/-- A generator that followed its course follows it after any number of demands, by induction on
these. -/
theorem meetEach (follows : generator.Follows course) (demands : List Demand) :
    (Generator.meetEach Generator.meet generator demands).2.Follows
      ((demands.zip (Generator.meetEach Generator.meet generator demands).1).foldl Course.extend
        course) := by
  induction demands generalizing generator course with
  | nil => exact follows
  | cons demand later inductionHypothesis => exact inductionHypothesis (follows.meet demand)

end Follows

/-- After demands a generator that started from a seed is in step: it follows its course, and meets
whatever is demanded next as it should. -/
structure InStep (start : Generator) (seed : Int) (demands : List Demand) : Prop where
  /-- The generator follows the course that the demands and their answers record. -/
  follows : (meetEach meet start demands).2.Follows
    (.record seed demands (meetEach meet start demands).1)
  /-- The register is in its range. -/
  inside : 1 ≤ (meetEach meet start demands).2.register ∧
    (meetEach meet start demands).2.register ≤ 65535
  /-- A demand that is to be refused is refused, and the generator stays as it is. -/
  refuses : ∀ (demand : Demand) cause, demand.refusal? = some cause →
    (meetEach meet start demands).2.meet demand = (.error cause, (meetEach meet start demands).2)
  /-- Any other is answered, with the next values, as many as it asks for. -/
  answers : ∀ demand : Demand, demand.refusal? = none →
    ∃ values after, (meetEach meet start demands).2.meet demand = (.ok values, after) ∧
      values.map (Nat.cast : Nat → Int) =
        successors (meetEach meet start demands).2.register demand.count

/-- A demand that is not refused is answered with the next values. -/
theorem exists_answer (generator : Generator) {demand : Demand}
    (accepted : demand.refusal? = none) :
    ∃ values after, generator.meet demand = (.ok values, after) ∧
      values.map (Nat.cast : Nat → Int) = successors generator.register demand.count := by
  by_cases reseeds : ∃ seed, demand = .reseed seed
  · obtain ⟨seed, rfl⟩ := reseeds
    obtain ⟨_, after, met, _⟩ := meet_reseed generator accepted
    exact ⟨[], after, met, rfl⟩
  · have draws : ∀ seed, demand ≠ .reseed seed := fun seed same => reseeds ⟨seed, same⟩
    exact ⟨_, _, meet_draws generator accepted draws, draw_eq_successors generator demand.count⟩

/-- A generator that starts from a seed is in step after any demands. It need not have been made
from the seed; to hold it is enough. -/
theorem inStep_of_register {start : Generator} {seed : Int} (inside : 1 ≤ seed ∧ seed ≤ 65535)
    (register : (start.register : Int) = seed) (demands : List Demand) :
    start.InStep seed demands where
  follows := (follows_ofSeed inside register).meetEach demands
  inside := ⟨Generator.positive _, Generator.fits _⟩
  refuses _ _ refused := meet_refused _ refused
  answers _ accepted := exists_answer _ accepted

end Generator

end SortBench
