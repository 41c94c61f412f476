import SimplexMethod.Proofs.Problem.WellFormed
import SimplexMethod.Run

/-!
# Runs before their first step

Exactly the well-formed problems have a run, under a usable configuration. The run starts with the
tableau of the standard form and has made no pivot. Nothing here depends on the kind of numbers.

## Main definitions

* `Run.initial`: the first state of a run

## Main results

* `Run.create_eq_ok_iff`: when a problem has a run, and which one
-/

namespace SimplexMethod

variable {α : Type} [Scalar α] {problem : LinearProgram α} {config : Config α} {run : Run α}

theorem Config.validate_eq_error_iff {fault : ConfigFault α} :
    config.validate = .error fault ↔ config.fault? = some fault := by
  unfold Config.validate
  cases config.fault? <;> simp

theorem Config.validate_eq_ok_iff :
    config.validate = .ok () ↔ config.fault? = none := by
  unfold Config.validate
  cases config.fault? <;> simp

/-- The tolerance of a usable configuration is finite, and not zero or negative. -/
theorem Config.tolerance_of_fault? (usable : config.fault? = none) :
    Scalar.isFinite config.tolerance = true ∧ ¬config.tolerance ≤ 0 := by
  unfold Config.fault? at usable
  split at usable
  · cases usable
  · rename_i sound
    simpa using sound

namespace Run

/-- The run of a problem before its first step, without any check. -/
def initial {α : Type} [Scalar α] (problem : LinearProgram α) (config : Config α) : Run α :=
  ⟨config, .ofProblem problem, problem.standardTableau, .initialized, 0⟩

/-- Exactly the problems without defects have a run, under a usable configuration. -/
theorem create_eq_ok_iff : Run.create problem config = .ok run ↔
    config.fault? = none ∧ problem.defect? = none ∧ run = initial problem config := by
  unfold Run.create StandardForm.build initial
  cases config.fault? with
  | some fault => simp
  | none =>
    cases problem.defect? with
    | some defect => simp
    | none => simp [StandardForm.ofProblem, eq_comm]

theorem create_eq_ok_initial (usable : config.fault? = none) (wellFormed : problem.defect? = none) :
    Run.create problem config = .ok (initial problem config) :=
  create_eq_ok_iff.2 ⟨usable, wellFormed, rfl⟩

theorem config_of_create (created : Run.create problem config = .ok run) :
    run.config = config := by
  obtain ⟨-, -, rfl⟩ := create_eq_ok_iff.1 created
  rfl

theorem form_of_create (created : Run.create problem config = .ok run) :
    run.form = .ofProblem problem := by
  obtain ⟨-, -, rfl⟩ := create_eq_ok_iff.1 created
  rfl

end Run

end SimplexMethod
