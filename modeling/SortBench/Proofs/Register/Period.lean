import Mathlib.Data.Int.CardIntervalMod
import Mathlib.Data.List.Sort
import Mathlib.Dynamics.PeriodicPts.Lemmas
import Mathlib.Tactic.NormNum.Prime
import SortBench.Proofs.Register.Draws
import SortBench.Proofs.Register.Leaps

/-!
# The register has the greatest period

One returns to itself after 65535 steps, and for no prime divisor of that number after the steps of
the corresponding quotient; so 65535 is its least period. That is as many as there are register
values other than zero, so its orbit holds all of them, and every seed has the same period.

What is drawn from a generator runs through the orbit in turn. Hence the values are spread as
evenly as their number allows, and a whole period of them, in order, is the list of all values.
-/

namespace SortBench

namespace Register

open Function

/-- The number of register values other than zero. -/
def period : Nat := 65535

/-- After any number of steps the register is not zero, if it was not. Zero steps to itself, and
nothing else steps to it. -/
theorem iterate_pos {word : Nat} (positive : 0 < word) (fits : word ≤ top) (count : Nat) :
    0 < shifted^[count] word := by
  induction count with
  | zero => exact positive
  | succ count inductionHypothesis =>
    rw [iterate_succ_apply']
    exact shifted_pos _ inductionHypothesis (iterate_le_top fits count)

/-- A number of steps after which a point returns is its least period, if the point does not return
after the quotient by any prime divisor. A smaller period would divide one of these quotients. -/
theorem minimalPeriod_eq_of_primes {α : Type} {f : α → α} {x : α} {count : Nat}
    (returns : IsPeriodicPt f count x)
    (notBefore : ∀ prime, Nat.Prime prime → prime ∣ count → ¬ IsPeriodicPt f (count / prime) x) :
    minimalPeriod f x = count := by
  obtain ⟨cofactor, whole⟩ := returns.minimalPeriod_dvd
  by_contra shorter
  have several : cofactor ≠ 1 := by
    rintro rfl
    exact shorter (whole.trans (Nat.mul_one _)).symm
  have prime := Nat.minFac_prime several
  obtain ⟨rest, split⟩ := Nat.minFac_dvd cofactor
  generalize cofactor.minFac = factor at prime split
  have factored : count = factor * (minimalPeriod f x * rest) := by
    rw [whole, split]
    ac_rfl
  refine notBefore factor prime (Dvd.intro _ factored.symm) ?_
  rw [Nat.div_eq_of_eq_mul_right prime.pos factored]
  exact (isPeriodicPt_minimalPeriod f x).mul_const rest

/-- The prime divisors of the period. -/
theorem prime_dvd_period {prime : Nat} (isPrime : prime.Prime) (divides : prime ∣ period) :
    prime = 3 ∨ prime = 5 ∨ prime = 17 ∨ prime = 257 := by
  have factored : period = 3 * 5 * 17 * 257 := rfl
  rw [factored, isPrime.dvd_mul, isPrime.dvd_mul, isPrime.dvd_mul,
    Nat.prime_dvd_prime_iff_eq isPrime (by norm_num),
    Nat.prime_dvd_prime_iff_eq isPrime (by norm_num),
    Nat.prime_dvd_prime_iff_eq isPrime (by norm_num),
    Nat.prime_dvd_prime_iff_eq isPrime (by norm_num)] at divides
  omega

/-- One returns after the steps of a leap exactly when the leap returns. -/
theorem isPeriodicPt_one_iff (places : List Nat) :
    IsPeriodicPt shifted (places.map (2 ^ ·)).sum 1 ↔ leap places 1 = 1 := by
  rw [leap_eq_iterate places (by decide)]
  rfl

/-- The least period of one is as great as there are register values. Five leaps decide it: one for
the period itself and one for each prime divisor. -/
theorem minimalPeriod_one : minimalPeriod shifted 1 = period := by
  have returns (places : List Nat) (arrives : leap places 1 = 1) :=
    (isPeriodicPt_one_iff places).mpr arrives
  have leaves (places : List Nat) (moves : leap places 1 ≠ 1) :=
    mt (isPeriodicPt_one_iff places).mp moves
  apply minimalPeriod_eq_of_primes
  · exact returns [0, 1, 2, 3, 4, 5, 6, 7, 8, 9, 10, 11, 12, 13, 14, 15] (by decide +kernel)
  · intro prime isPrime divides
    -- The quotients in binary are 21845, 13107, 3855 and 255.
    obtain rfl | rfl | rfl | rfl := prime_dvd_period isPrime divides
    · exact leaves [0, 2, 4, 6, 8, 10, 12, 14] (by decide +kernel)
    · exact leaves [0, 1, 4, 5, 8, 9, 12, 13] (by decide +kernel)
    · exact leaves [0, 1, 2, 3, 8, 9, 10, 11] (by decide +kernel)
    · exact leaves [0, 1, 2, 3, 4, 5, 6, 7] (by decide +kernel)

/-- Register values of the greatest period reach every register value within it: they pass as many
different values as there are. -/
theorem exists_iterate {start value : Nat} (startPositive : 0 < start) (startFits : start ≤ top)
    (greatest : minimalPeriod shifted start = period) (positive : 0 < value)
    (fits : value ≤ top) : ∃ count < period, shifted^[count] start = value := by
  have distinct : Set.InjOn (fun count => shifted^[count] start) (Finset.range period) := by
    have injective := iterate_injOn_Iio_minimalPeriod (f := shifted) (x := start)
    rw [greatest] at injective
    rwa [Finset.coe_range]
  have inside : (Finset.range period).image (fun count => shifted^[count] start) ⊆
      Finset.Icc 1 top := by
    intro reached member
    obtain ⟨count, _, rfl⟩ := Finset.mem_image.mp member
    exact Finset.mem_Icc.mpr
      ⟨iterate_pos startPositive startFits count, iterate_le_top startFits count⟩
  have asMany : (Finset.Icc 1 top).card ≤
      ((Finset.range period).image fun count => shifted^[count] start).card := by
    rw [Finset.card_image_of_injOn distinct, Finset.card_range, Nat.card_Icc]
    exact Nat.le_refl _
  have member : value ∈ Finset.Icc 1 top := Finset.mem_Icc.mpr ⟨positive, fits⟩
  rw [← Finset.eq_of_subset_of_card_le inside asMany] at member
  obtain ⟨count, within, reached⟩ := Finset.mem_image.mp member
  exact ⟨count, Finset.mem_range.mp within, reached⟩

/-- Every register value has the greatest period, since it is on the orbit of one. -/
theorem minimalPeriod_shifted {value : Nat} (positive : 0 < value) (fits : value ≤ top) :
    minimalPeriod shifted value = period := by
  obtain ⟨count, _, rfl⟩ := exists_iterate (by decide) (by decide) minimalPeriod_one positive fits
  have recurs : 1 ∈ periodicPts shifted := by
    rw [← minimalPeriod_pos_iff_mem_periodicPts, minimalPeriod_one]
    decide
  rw [minimalPeriod_apply_iterate recurs, minimalPeriod_one]

/-- Two numbers of steps from a register value meet exactly when they are congruent modulo the
period. -/
theorem iterate_eq_iterate_iff {value : Nat} (positive : 0 < value) (fits : value ≤ top)
    (i j : Nat) : shifted^[i] value = shifted^[j] value ↔ i ≡ j [MOD period] := by
  have greatest := minimalPeriod_shifted positive fits
  have below (count : Nat) : count % minimalPeriod shifted value < minimalPeriod shifted value := by
    rw [greatest]
    exact Nat.mod_lt count (by decide)
  rw [← iterate_mod_minimalPeriod_eq (n := i), ← iterate_mod_minimalPeriod_eq (n := j),
    iterate_eq_iterate_iff_of_lt_minimalPeriod (below i) (below j), greatest]
  rfl

end Register

namespace Generator

open Register

/-- The values that a generator draws, as many as asked for. -/
def registers (generator : Generator) (count : Nat) : List Nat :=
  (List.range count).map fun k => (next^[k + 1] generator).register

theorem iterate_next_register (generator : Generator) (count : Nat) :
    (next^[count] generator).register = shifted^[count] generator.register := by
  have semiconjugate : Function.Semiconj Generator.register next shifted := fun _ => rfl
  exact semiconjugate.iterate_right count generator

/-- The values drawn are the registers after one step, two steps and so on. -/
theorem draw_eq_registers (generator : Generator) (count : Nat) :
    (generator.draw count).1 = generator.registers count := by
  have semiconjugate :
      Function.Semiconj (fun generator : Generator => (generator.register : Int)) next step :=
    next_register
  have same : (generator.draw count).1.map (Nat.cast : Nat → Int) =
      (generator.registers count).map Nat.cast := by
    rw [draw_eq_successors, successors, registers, List.map_map]
    apply List.map_congr_left
    intro k _
    exact (semiconjugate.iterate_right (k + 1) generator).symm
  exact List.map_injective_iff.mpr Nat.cast_injective same

/-- Two registers on the way of a generator are equal exactly when their numbers of steps are
congruent modulo the period. -/
theorem register_eq_register_iff (generator : Generator) (i j : Nat) :
    (next^[i] generator).register = (next^[j] generator).register ↔ i ≡ j [MOD period] := by
  rw [iterate_next_register, iterate_next_register]
  exact iterate_eq_iterate_iff generator.positive generator.fits i j

/-- Every register value is drawn for the first time within a period. -/
theorem exists_register (generator : Generator) {value : Nat} (positive : 0 < value)
    (fits : value ≤ top) : ∃ first < period, (next^[first + 1] generator).register = value := by
  obtain ⟨first, within, reached⟩ := exists_iterate generator.next.positive generator.next.fits
    (minimalPeriod_shifted generator.next.positive generator.next.fits) positive fits
  refine ⟨first, within, ?_⟩
  rw [Function.iterate_succ_apply, iterate_next_register]
  exact reached

/-- A register value is drawn once in each whole period, and perhaps once more. Which values are
drawn once more depends on the seed, and how many do not. -/
theorem count_registers (generator : Generator) (count : Nat) {value : Nat} (positive : 0 < value)
    (fits : value ≤ top) :
    (generator.registers count).count value = count / period ∨
      (generator.registers count).count value = count / period + 1 := by
  obtain ⟨first, _, rfl⟩ := generator.exists_register positive fits
  have counted : (generator.registers count).count (next^[first + 1] generator).register =
      Nat.count (· ≡ first [MOD period]) count := by
    rw [registers, List.count, List.countP_map]
    apply List.countP_congr
    intro k _
    simp only [Function.comp_apply, beq_iff_eq, decide_eq_true_eq, register_eq_register_iff]
    exact ⟨Nat.ModEq.add_right_cancel' 1, Nat.ModEq.add_right 1⟩
  rw [counted, Nat.count_modEq_card count (by decide)]
  split
  · exact Or.inr rfl
  · exact Or.inl rfl

/-- Within a period no value is drawn twice. -/
theorem nodup_registers (generator : Generator) {count : Nat} (within : count ≤ period) :
    (generator.registers count).Nodup := by
  apply List.Nodup.map_on _ List.nodup_range
  intro i first j second same
  rw [List.mem_range] at first second
  have congruent := (register_eq_register_iff generator _ _).mp same
  exact Nat.ModEq.eq_of_lt_of_lt (Nat.ModEq.add_right_cancel' 1 congruent) (by omega) (by omega)

/-- The values of a whole period are all register values but zero. -/
theorem registers_perm (generator : Generator) :
    (generator.registers period).Perm (List.range' 1 period) := by
  rw [List.perm_ext_iff_of_nodup (generator.nodup_registers (Nat.le_refl period)) List.nodup_range']
  intro value
  rw [registers, List.mem_map, List.mem_range'_1]
  constructor
  · rintro ⟨k, _, rfl⟩
    have upper : (next^[k + 1] generator).register ≤ 65535 := (next^[k + 1] generator).fits
    have bound : period = 65535 := rfl
    exact ⟨(next^[k + 1] generator).positive, by omega⟩
  · rintro ⟨lower, upper⟩
    obtain ⟨first, within, reached⟩ :=
      generator.exists_register lower (Nat.le_of_lt_succ (by rwa [Nat.add_comm] at upper))
    exact ⟨first, List.mem_range.mpr within, reached⟩

/-- However they are sorted, the values of a whole period are one, two and so on up to the
largest. -/
theorem sorted_registers (generator : Generator) {sorted : List Nat}
    (same : sorted.Perm (generator.registers period)) (ascending : sorted.Pairwise (· ≤ ·)) :
    sorted = List.range' 1 period := by
  have consecutive : (List.range' 1 period).Pairwise (· ≤ ·) :=
    (List.pairwise_lt_range' ..).imp Nat.le_of_lt
  exact (same.trans generator.registers_perm).eq_of_pairwise' ascending consecutive

/-- Whatever the seed, the generator passes all register values but zero before it repeats. Two
registers on its way are equal exactly when their numbers of steps are congruent modulo 65535, and
none is zero. Among the values drawn each occurs equally often, or once more than others; up to
65535 of them are all different, and so many of them, however they are sorted, are the numbers from
one on.

Proof: leaps decide that one returns after 65535 steps and not after the quotient by any prime
divisor, so that is its least period. As many different values as there are lie on its orbit, hence
all of them have this period, and counting values drawn is counting numbers that are congruent. -/
theorem full_period (seed : Int) (inside : 1 ≤ seed ∧ seed ≤ 65535) :
    ∃ generator, ofSeed seed = .ok generator ∧ (generator.register : Int) = seed ∧
      (∀ i j, (next^[i] generator).register = (next^[j] generator).register ↔
        i ≡ j [MOD 65535]) ∧
      (∀ i, (next^[i] generator).register ≠ 0) ∧
      ∀ count : Nat, ∃ drawn after, generator.take count = .ok (drawn, after) ∧
        (∀ value, 1 ≤ value → value ≤ 65535 →
          drawn.count value = count / 65535 ∨ drawn.count value = count / 65535 + 1) ∧
        (count ≤ 65535 → drawn.Nodup) ∧
        (count = 65535 → ∀ sorted : List Nat, sorted.Perm drawn → sorted.Pairwise (· ≤ ·) →
          sorted = List.range' 1 65535) := by
  obtain ⟨zero, _⟩ | ⟨_, outside, _⟩ | ⟨generator, _, _, started, register⟩ := ofSeed_cases seed
  · omega
  · omega
  · refine ⟨generator, started, register, generator.register_eq_register_iff, ?_, ?_⟩
    · intro i
      exact Nat.ne_of_gt (next^[i] generator).positive
    · intro count
      have taken : generator.take count =
          .ok (generator.registers count, (generator.draw count).2) := by
        rw [← draw_eq_registers, take, if_neg (by omega), Int.toNat_natCast]
      refine ⟨_, _, taken, fun value => generator.count_registers count,
        generator.nodup_registers, ?_⟩
      rintro rfl sorted
      exact generator.sorted_registers

/-- From the default seed the register returns after two periods, and not one step earlier. -/
theorem full_period_defaultSeed :
    ∃ generator, ofSeed 0xF3AD = .ok generator ∧
      (next^[131070] generator).register = (next^[0] generator).register ∧
        (next^[131069] generator).register ≠ (next^[0] generator).register := by
  obtain ⟨generator, started, _, meet, _⟩ := full_period 0xF3AD (by decide)
  refine ⟨generator, started, (meet _ _).mpr (by decide), ?_⟩
  rw [ne_eq, meet]
  decide

end Generator

end SortBench
