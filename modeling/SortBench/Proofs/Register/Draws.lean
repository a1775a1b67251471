import Mathlib.Logic.Function.Iterate
import SortBench.Register.Generator

/-!
# What a generator draws

Each value drawn is the register after one more step, so the values drawn are the iterates of the
step, in order. The register of a generator steps as every integer does: a seed in its range is
its own word.
-/

namespace SortBench

namespace Register

/-- The register value that follows an integer, as an integer. Seeds and values of programs are
integers, while registers are natural numbers; statements are made about the former. -/
def step (register : Int) : Int :=
  successor register

/-- The values that follow an integer, as many as asked for. The integer itself is not one of
them. -/
def successors (register : Int) (count : Nat) : List Int :=
  (List.range count).map fun k => step^[k + 1] register

theorem length_successors (register : Int) (count : Nat) :
    (successors register count).length = count := by
  simp [successors]

/-- The values that follow are the next one and those that follow it. -/
theorem successors_succ (register : Int) (count : Nat) :
    successors register (count + 1) = step register :: successors (step register) count := by
  unfold successors
  rw [List.range_succ_eq_map, List.map_cons, List.map_map]
  rfl

end Register

namespace Generator

open Register

/-- A generator steps its register. -/
theorem next_register (generator : Generator) :
    (generator.next.register : Int) = step generator.register := by
  unfold next step successor
  rw [word_natCast generator.register generator.fits]

/-- Values are drawn one after another, the latest first, so they come out in reverse. -/
theorem drawOnto_eq (drawn : List Nat) (count : Nat) (generator : Generator) :
    (drawOnto drawn count generator).1.reverse.map (Nat.cast : Nat → Int) =
      drawn.reverse.map Nat.cast ++ successors generator.register count := by
  induction count generalizing drawn generator with
  | zero => simp [drawOnto, successors]
  | succ count inductionHypothesis =>
    rw [drawOnto, inductionHypothesis, successors_succ, ← next_register]
    simp

/-- The values drawn are the successors of the register, in order. -/
theorem draw_eq_successors (generator : Generator) (count : Nat) :
    (generator.draw count).1.map (Nat.cast : Nat → Int) =
      successors generator.register count := by
  have drawn := drawOnto_eq [] count generator
  simpa [draw] using drawn

/-- Every value drawn is a register value. -/
theorem draw_le_top (generator : Generator) (count : Nat) :
    ∀ value ∈ (generator.draw count).1, value ≤ top := by
  intro value member
  have listed : (value : Int) ∈ successors generator.register count :=
    draw_eq_successors generator count ▸ List.mem_map_of_mem member
  obtain ⟨k, _, stepped⟩ := List.mem_map.mp listed
  rw [Function.iterate_succ_apply'] at stepped
  rw [← Int.ofNat_inj.mp stepped]
  exact shifted_le_top _

/-- A seed is zero, beyond the register, or the register of a generator. Zero is told apart from
other seeds that are out of range, as it has a refusal of its own. -/
theorem ofSeed_cases (seed : Int) :
    (seed = 0 ∧ ofSeed seed = .error .zeroSeed) ∨
      (seed ≠ 0 ∧ (seed < 1 ∨ 65535 < seed) ∧ ofSeed seed = .error (.seedOutOfRange seed)) ∨
        ∃ generator, seed ≠ 0 ∧ ¬ (seed < 1 ∨ 65535 < seed) ∧ ofSeed seed = .ok generator ∧
          (generator.register : Int) = seed := by
  have largest : (top : Int) = 65535 := rfl
  unfold ofSeed requireSeed
  by_cases zero : seed = 0
  · exact Or.inl ⟨zero, by simp [zero]⟩
  · by_cases outside : seed < 0 ∨ top < seed
    · exact Or.inr (Or.inl ⟨zero, by omega, by simp [zero, outside]⟩)
    · have started : (seed.toNat : Int) = seed := by omega
      simp only [zero, outside, ↓reduceDIte]
      exact Or.inr (Or.inr ⟨_, zero, by omega, rfl, started⟩)

/-- A negative number of values is refused; any other number of them are the successors. -/
theorem take_cases (generator : Generator) (count : Int) :
    (count < 0 ∧ generator.take count = .error (.negativeCount count)) ∨
      0 ≤ count ∧ ∃ drawn after, generator.take count = .ok (drawn, after) ∧
        drawn.map (Nat.cast : Nat → Int) = successors generator.register count.toNat := by
  unfold take
  by_cases negative : count < 0
  · exact Or.inl ⟨negative, if_pos negative⟩
  · exact Or.inr ⟨by omega, _, _, if_neg negative, draw_eq_successors generator count.toNat⟩

end Generator

end SortBench
