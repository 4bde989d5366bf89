import Admissorium.App.Permissions

/-!
# The emergency stop of `src/policy`

The guard asks the environment for the switch that `emergency-stop.json` names in
`environment_switch`. The write decision asks it for the variable the permission
policy names. The two answers agree in an environment exactly when these two
variables do (`active_eq_iff`), and the shipped file names its switch in another
field, so the variable the guard asks for is called `undefined`.
-/
namespace Admissorium.Policy.EmergencyStop
set_option autoImplicit false

open JavaScript Policies App.Permissions

structure EmergencyStopEvaluation where
  active : Bool
  environment_switch : Option String
  side_effects_allowed : Bool
  deriving DecidableEq, Repr

def evaluateEmergencyStop (host : Host) (env : Option Env) : EmergencyStopEvaluation :=
  let env := env.getD host.env
  let policy := host.policies.emergencyStop
  let active : Bool := env (propertyKey policy.environment_switch) = some "true"
  { active
    environment_switch := policy.environment_switch
    side_effects_allowed := !active }

inductive GuardVerdict where
  | emergencyStopActive
  | admissible
  deriving DecidableEq, Repr

structure GuardDecision where
  remote_side_effect_allowed : Bool
  decision : GuardVerdict
  deriving DecidableEq, Repr

def emergencyStopGuard (host : Host) : GuardDecision :=
  let evaluation := evaluateEmergencyStop host none
  if evaluation.active then ⟨false, .emergencyStopActive⟩ else ⟨true, .admissible⟩

/-- The guard denies exactly what the evaluation of the process environment stops. -/
theorem emergencyStopGuard_denies_iff (host : Host) :
    (emergencyStopGuard host).remote_side_effect_allowed = false ↔
      (evaluateEmergencyStop host none).active = true := by
  rw [emergencyStopGuard]
  cases (evaluateEmergencyStop host none).active <;> simp

theorem active_iff (host : Host) (env : Env) :
    (evaluateEmergencyStop host (some env)).active = true ↔
      env (propertyKey host.policies.emergencyStop.environment_switch) = some "true" :=
  decide_eq_true_iff

/-! ## The variable of the write decision -/

/-- The variable a permission policy names, once completed. -/
def stopVariable (policy : PermissionPolicy) : String :=
  textOr (some (withPermissionDefaults policy).environment.write_disabled_variable)
    "ADMISSORIUM_WRITE_DISABLED"

theorem isWriteDisabled_iff (policy : PermissionPolicy) (env : Env) :
    isWriteDisabled policy env = true ↔ env (stopVariable policy) = some "true" :=
  decide_eq_true_iff

/-- The two guards agree in an environment exactly when their two variables do. -/
theorem active_eq_iff (host : Host) (policy : PermissionPolicy) (env : Env) :
    (evaluateEmergencyStop host (some env)).active = isWriteDisabled policy env ↔
      (env (propertyKey host.policies.emergencyStop.environment_switch) = some "true" ↔
        env (stopVariable policy) = some "true") := by
  rw [Bool.eq_iff_iff, active_iff, isWriteDisabled_iff]

/-! ## The shipped policies -/

/-- Under the shipped policies, a process in this environment is stopped by the guard
exactly when `isWriteDisabled` says so, and always when the canonical switch is set. -/
structure StopsAgree (env : Env) : Prop where
  evaluation : ∀ host, host.policies = shipped →
    (evaluateEmergencyStop host (some env)).active =
      isWriteDisabled (loadPermissionPolicy host).asPolicy env
  guard : (emergencyStopGuard ⟨env, shipped⟩).remote_side_effect_allowed = false ↔
    isWriteDisabled (loadPermissionPolicy ⟨env, shipped⟩).asPolicy env = true
  canonical : env "ADMISSORIUM_WRITE_DISABLED" = some "true" →
    (evaluateEmergencyStop ⟨env, shipped⟩ (some env)).active = true

theorem shipped_stopVariable {host : Host} (h : host.policies = shipped) :
    stopVariable (loadPermissionPolicy host).asPolicy = "ADMISSORIUM_WRITE_DISABLED" := by
  rw [loadPermissionPolicy, h]
  decide +kernel

theorem shipped_switch {host : Host} (h : host.policies = shipped) :
    propertyKey host.policies.emergencyStop.environment_switch = "undefined" := by
  rw [h]
  rfl

/-- The shipped guards agree exactly where a variable called `undefined` is set to
`"true"` along with the canonical one, or neither is. -/
theorem stopsAgree_iff (env : Env) :
    StopsAgree env ↔
      (env "undefined" = some "true" ↔ env "ADMISSORIUM_WRITE_DISABLED" = some "true") := by
  have hagree : ∀ host : Host, host.policies = shipped →
      ((evaluateEmergencyStop host (some env)).active =
        isWriteDisabled (loadPermissionPolicy host).asPolicy env ↔
      (env "undefined" = some "true" ↔ env "ADMISSORIUM_WRITE_DISABLED" = some "true")) := by
    intro host h
    rw [active_eq_iff, shipped_switch h, shipped_stopVariable h]
  constructor
  · intro h
    exact (hagree ⟨env, shipped⟩ rfl).mp (h.evaluation _ rfl)
  · intro h
    have heval := (hagree ⟨env, shipped⟩ rfl).mpr h
    refine ⟨fun host hp => (hagree host hp).mpr h, ?_, ?_⟩
    · rw [emergencyStopGuard_denies_iff, ← heval]
      rfl
    · intro hset
      rw [active_iff]
      exact h.mpr hset

/-- The switch the documentation sets. -/
def documentedStop : Env := Record.ofList [("ADMISSORIUM_WRITE_DISABLED", "true")]

/-- With it set, the guard still lets remote side effects through. -/
theorem documentedStop_inert : ¬ StopsAgree documentedStop := by
  intro h
  have hactive := h.canonical (by decide)
  revert hactive
  decide

end Admissorium.Policy.EmergencyStop
