import SortBench.Proofs.Program.Runs
import SortBench.Proofs.Register.Draws

/-!
# Steady programs

The literal of a steady program is the same in every reading. Then its input is the same in every
run, has the declared size, and two runs answer alike; so verifying the program answers as running
it once does, however often its literal was read before.
-/

namespace SortBench

theorem Generator.length_of_take {generator after : Generator} {count : Int} {drawn : List Nat}
    (taken : generator.take count = .ok (drawn, after)) : (drawn.length : Int) = count := by
  obtain ⟨_, refused⟩ | ⟨counted, values, final, given, successors⟩ := generator.take_cases count
  · rw [taken] at refused
    cases refused
  · rw [taken] at given
    cases given
    have length := congrArg List.length successors
    rw [List.length_map, Register.length_successors] at length
    omega

/-- The first reading of a literal gives its first list. -/
theorem Literal.reading_zero (literal : Literal) : literal.reading 0 = literal.first := by
  unfold reading
  cases literal.later <;> rfl

namespace Spec

/-- The input of the first run of a program has the declared size. A literal of another length is
refused, and a register gives as many values as are asked for. -/
theorem length_of_input {spec : Spec} {values : List Value} (built : spec.input 0 = .ok values) :
    (values.length : Int) = spec.size := by
  unfold input at built
  split at built
  · split at built
    case isTrue declared =>
      cases built
      rw [Literal.reading_zero]
      exact declared
    case isFalse => cases built
  · split at built
    · cases built
    · split at built
      · cases built
      case h_2 taken =>
        cases built
        rw [List.length_map]
        exact Generator.length_of_take taken
  · cases built

/-- Verifying a program of which every run answers alike answers as running it once does. The second
run can then bring nothing new, not even a failure. -/
theorem verify_of_alike {registry : Registry} {spec : Spec}
    (alike : ∀ earlier, spec.answer registry earlier = spec.answer registry 0)
    (session : Session) :
    ((spec.verify registry).run.run session).1 = spec.answer registry 0 := by
  have answers (before : Session) :
      ((spec.run registry).run.run before).1 = spec.answer registry 0 := by
    rw [run_answer, alike]
  unfold verify
  rw [Procedure.run_bind, ← answers session]
  cases first : (spec.run registry).run.run session with
  | mk outcome between =>
    cases outcome with
    | error fault => rfl
    | ok report =>
      have second : ((spec.run registry).run.run between).1 = .ok report := by
        rw [answers, ← answers session, first]
      dsimp only
      rw [Procedure.run_bind]
      cases again : (spec.run registry).run.run between with
      | mk outcome after =>
        rw [again] at second
        cases second
        dsimp only
        rw [if_pos (beq_self_eq_true report.outputDigest)]
        rfl

/-- Every reading of the literal gives the same values. -/
def IsSteady (spec : Spec) : Prop :=
  spec.literal.later = []

namespace IsSteady

variable {spec : Spec}

/-- The input of a steady program does not depend on earlier readings. -/
theorem input_eq (steady : spec.IsSteady) (earlier : Nat) : spec.input earlier = spec.input 0 := by
  have reading : spec.literal.reading earlier = spec.literal.reading 0 := by
    rw [Literal.reading_zero, Literal.reading, steady]
    cases earlier <;> rfl
  unfold Spec.input
  rw [reading]

/-- A run of a steady program answers as its first run does. -/
theorem answer_eq (steady : spec.IsSteady) (registry : Registry) (earlier : Nat) :
    spec.answer registry earlier = spec.answer registry 0 := by
  unfold answer outcome
  rw [steady.input_eq earlier]

/-- Verifying a steady program answers as running it does. -/
theorem verify_answer (steady : spec.IsSteady) (registry : Registry) (session : Session) :
    ((spec.verify registry).run.run session).1 = spec.answer registry 0 :=
  verify_of_alike (steady.answer_eq registry) session

end IsSteady

end Spec

end SortBench
