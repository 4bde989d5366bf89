import Admissorium.App.GuardedWrites
import Admissorium.App.InstallationToken
import Admissorium.App.WebhookRoute
import Admissorium.Policy.EmergencyStop

/-!
# One switch, seven readers

`ADMISSORIUM_WRITE_DISABLED` is read by the write decision, the webhook dispatcher, the
token planner, the token exchange and the three writer adapters, each with a test of
its own. The write decision and the adapters know the value `"true"` only; the adapters
do not fall back to the process environment.
-/
namespace Admissorium.App.EmergencySwitch
set_option autoImplicit false

open JavaScript Policies Permissions WriteDecision Reports Plans RepairTargets WriterAdapters
  GuardedWrites WebhookRoute InstallationToken Policy.EmergencyStop

/-- The functions that answer to the switch before any writer is asked. -/
inductive StopReader where
  | decideWrite
  | dispatchWebhookRoute
  | buildInstallationTokenPlan
  | guardedInstallationTokenExchange
  deriving DecidableEq, Repr

/-- The stop test of each. -/
def StopReader.stops (policy : PermissionPolicy) (env : Env) : StopReader → Bool
  | decideWrite => isWriteDisabled policy env
  | dispatchWebhookRoute => dispatchStopped env
  | buildInstallationTokenPlan => exchangeStopped env
  | guardedInstallationTokenExchange => exchangeStopped env

/-- The environment without any variable but the switch. -/
def switchOnly (env : Env) : Env :=
  fun key => if key = "ADMISSORIUM_WRITE_DISABLED" then env key else none

/-- The reader takes the value of the switch for an active stop. -/
def Treats (policy : PermissionPolicy) (env : Env) (reader : StopReader) : Prop :=
  reader.stops policy (switchOnly env) = true

instance (policy : PermissionPolicy) (env : Env) (reader : StopReader) :
    Decidable (Treats policy env reader) := inferInstanceAs (Decidable (_ = true))

/-- The reader, asked in an environment that sets nothing but the switch, denies as stopped. -/
def Denies (rt : Runtime) (host : Host) (env : Env) (request : DecideWriteInput)
    (dispatch : WebhookRouteDispatcherInput) (tokenPlan : InstallationTokenPlanInput)
    (exchange : GuardedInstallationTokenExchangeInput) : StopReader → Prop
  | .decideWrite => ∃ d, decideWrite rt host { request with env := some (switchOnly env) } = .ok d ∧
      d.decision = .denyWriteDisabled
  | .dispatchWebhookRoute =>
      (dispatchWebhookRoute host { dispatch with env := some (switchOnly env) }).decision =
        .denyEmergencyStop
  | .buildInstallationTokenPlan =>
      (buildInstallationTokenPlan host { tokenPlan with env := some (switchOnly env) }).decision =
        .denyEmergencyStop
  | .guardedInstallationTokenExchange =>
      ∃ result, (guardedInstallationTokenExchange host
        { exchange with env := some (switchOnly env) }).outcome = .ok result ∧
          result.decision = .deniedEmergencyStop

/-- To treat the value as a stop is to deny for it, whatever else is asked: the write decision
whenever it answers, the exchange whenever the caller executes it. -/
theorem denies_iff_treats {rt : Runtime} {host : Host} {env : Env} {request : DecideWriteInput}
    {dispatch : WebhookRouteDispatcherInput} {tokenPlan : InstallationTokenPlanInput}
    {exchange : GuardedInstallationTokenExchangeInput}
    (hanswers : ∃ pd, request.pathDecision host = .ok pd) (hexecuted : Executed exchange)
    (reader : StopReader) :
    Denies rt host env request dispatch tokenPlan exchange reader ↔
      Treats (request.normalizedPermissionPolicy host).asPolicy env reader := by
  cases reader with
  | decideWrite =>
      obtain ⟨pd, hpd⟩ := hanswers
      obtain ⟨d, hd, _⟩ := decideWrite_spec rt host
        { request with env := some (switchOnly env) } hpd
      have hstop := stopped_iff rt host { request with env := some (switchOnly env) } hd
      constructor
      · intro h
        obtain ⟨d', hd', hdeny⟩ := h
        obtain rfl := Except.ok.inj (hd.symm.trans hd')
        exact hstop.mp hdeny
      · intro h
        exact ⟨d, hd, hstop.mpr h⟩
  | dispatchWebhookRoute =>
      exact dispatch_stopped_iff host { dispatch with env := some (switchOnly env) }
  | buildInstallationTokenPlan =>
      exact plan_stopped_iff host { tokenPlan with env := some (switchOnly env) }
  | guardedInstallationTokenExchange =>
      have hsame : Executed { exchange with env := some (switchOnly env) } := hexecuted
      exact exchange_stopped_iff host hsame

/-- The values the dispatcher and the token functions take for an active stop. -/
def stopValues : List String := ["true", "1", "yes"]

theorem treats_decideWrite_iff (policy : PermissionPolicy) (env : Env) :
    Treats policy env .decideWrite ↔ stopVariable policy = "ADMISSORIUM_WRITE_DISABLED" ∧
      env "ADMISSORIUM_WRITE_DISABLED" = some "true" := by
  have hstops : Treats policy env .decideWrite ↔ isWriteDisabled policy (switchOnly env) = true :=
    Iff.rfl
  rw [hstops, isWriteDisabled_iff, switchOnly]
  by_cases hv : stopVariable policy = "ADMISSORIUM_WRITE_DISABLED" <;> simp [hv]

/-- The other three readers agree. -/
theorem treats_iff (policy : PermissionPolicy) (env : Env) {reader : StopReader}
    (h : reader ≠ .decideWrite) :
    Treats policy env reader ↔ ∃ v ∈ stopValues, env "ADMISSORIUM_WRITE_DISABLED" = some v := by
  cases reader with
  | decideWrite => exact absurd rfl h
  | dispatchWebhookRoute =>
      simp [Treats, StopReader.stops, dispatchStopped, enabled, switchOnly, stopValues, or_assoc]
  | buildInstallationTokenPlan =>
      simp [Treats, StopReader.stops, exchangeStopped, isEnabled, switchOnly, stopValues, or_assoc]
  | guardedInstallationTokenExchange =>
      simp [Treats, StopReader.stops, exchangeStopped, isEnabled, switchOnly, stopValues, or_assoc]

/-- Some reader takes the value for a stop when it is one of the three. -/
theorem some_treats_iff (policy : PermissionPolicy) (env : Env) :
    (∃ reader, Treats policy env reader) ↔
      ∃ v ∈ stopValues, env "ADMISSORIUM_WRITE_DISABLED" = some v := by
  constructor
  · intro h
    obtain ⟨reader, ht⟩ := h
    by_cases hr : reader = .decideWrite
    · subst hr
      exact ⟨"true", by decide, ((treats_decideWrite_iff _ _).mp ht).2⟩
    · exact (treats_iff _ _ hr).mp ht
  · intro hv
    exact ⟨.dispatchWebhookRoute, (treats_iff _ _ (by decide)).mpr hv⟩

/-- All of them do when the write decision does. -/
theorem all_treat_iff (policy : PermissionPolicy) (env : Env) :
    (∀ reader, Treats policy env reader) ↔
      stopVariable policy = "ADMISSORIUM_WRITE_DISABLED" ∧
        env "ADMISSORIUM_WRITE_DISABLED" = some "true" := by
  rw [← treats_decideWrite_iff]
  constructor
  · exact fun h => h .decideWrite
  · intro h reader
    by_cases hr : reader = .decideWrite
    · rw [hr]
      exact h
    · exact (treats_iff _ _ hr).mpr ⟨"true", by decide, ((treats_decideWrite_iff _ _).mp h).2⟩

/-- The adapters see a stop exactly when they are handed the environment it is set in. -/
theorem writeDisabled_iff_given (processEnv : Env) (env : Option Env)
    (hset : (env.getD processEnv) "ADMISSORIUM_WRITE_DISABLED" = some "true") :
    writeDisabled env = true ↔ env.isSome = true := by
  cases env with
  | none => simp [WriterAdapters.writeDisabled]
  | some own => simpa [WriterAdapters.writeDisabled] using hset

section

/- One way of supplying the environment, a write request and an input of each writer. -/
variable (host : Host) (env : Option Env) (request : DecideWriteInput)
  (checkRun : GuardedCheckRunWriterInput) (repair : GuardedProjectionRepairPrWriterInput)
  (issue : GuardedQuarantineIssueWriterInput)

/-- Some writer calls its client. -/
def SomeClientCalled : Prop :=
  Called (writeGitHubCheckRunGuarded { checkRun with env := env }) ∨
    Called (writeProjectionRepairPrGuarded { repair with env := env }) ∨
    Called (writeQuarantineIssueGuarded { issue with env := env })

/-- If one reader takes the switch for an active stop, all do and no client is called. -/
def OneStop : Prop :=
  let policy := (request.normalizedPermissionPolicy host).asPolicy
  let effective := env.getD host.env
  (∃ reader, Treats policy effective reader) →
    (∀ reader, Treats policy effective reader) ∧ ¬ SomeClientCalled env checkRun repair issue

/-- Some writer would call its client but for the switch. -/
def SomeWriterReady : Prop :=
  (Addressable checkRun.plan.repository ∧ (!checkRun.executeWrite || checkRun.plan.dry_run) = false ∧
    checkRun.plan.permission_decision.decision = .allow) ∨
  (Addressable repair.plan.repository ∧ (!repair.executeWrite || repair.plan.dry_run) = false ∧
    repair.plan.required = true) ∨
  (Addressable issue.plan.repository ∧ (!issue.executeWrite || issue.plan.dry_run) = false ∧
    issue.plan.required = true)

theorem someClientCalled_iff :
    SomeClientCalled env checkRun repair issue ↔
      writeDisabled env = false ∧ SomeWriterReady checkRun repair issue := by
  simp only [SomeClientCalled, checkRun_called_iff, pullRequest_called_iff, issue_called_iff,
    SomeWriterReady]
  tauto

/-- The stop has one meaning exactly when it is not set, or is set to `"true"` under the
name the permission policy gives it, in an environment the writers are handed too (or no
writer is ready). -/
theorem oneStop_iff :
    OneStop host env request checkRun repair issue ↔
      (∀ v ∈ stopValues, (env.getD host.env) "ADMISSORIUM_WRITE_DISABLED" ≠ some v) ∨
        ((env.getD host.env) "ADMISSORIUM_WRITE_DISABLED" = some "true" ∧
          stopVariable (request.normalizedPermissionPolicy host).asPolicy =
            "ADMISSORIUM_WRITE_DISABLED" ∧
          (env.isSome = true ∨ ¬ SomeWriterReady checkRun repair issue)) := by
  rw [OneStop, some_treats_iff, all_treat_iff, someClientCalled_iff]
  constructor
  · intro hone
    by_cases hv : ∃ v ∈ stopValues, (env.getD host.env) "ADMISSORIUM_WRITE_DISABLED" = some v
    · obtain ⟨⟨hname, hset⟩, hquiet⟩ := hone hv
      refine Or.inr ⟨hset, hname, ?_⟩
      rw [← writeDisabled_iff_given host.env env hset]
      cases hw : writeDisabled env with
      | true => exact Or.inl rfl
      | false => exact Or.inr (fun hready => hquiet ⟨hw, hready⟩)
    · exact Or.inl (fun v hm hset => hv ⟨v, hm, hset⟩)
  · rintro (hnone | ⟨hset, hname, hquiet⟩) ⟨v, hm, hv⟩
    · exact absurd hv (hnone v hm)
    · refine ⟨⟨hname, hset⟩, ?_⟩
      intro hcase
      obtain ⟨hw, hready⟩ := hcase
      rcases hquiet with hown | hidle
      · rw [← writeDisabled_iff_given host.env env hset, hw] at hown
        cases hown
      · exact hidle hready

end

/-! ## Two stops that are not one -/

/-- The executed plans of the license report, handed to the three writers. -/
def licenseCheckRun : GuardedCheckRunWriterInput where
  plan := { (buildCheckRunPlan .ascii shippedHost ⟨licenseReport, "0", "Verifrax/ADMISSORIUM",
    none, some (fun _ => none), none, none⟩).toOption.get (by decide +kernel) with dry_run := false }
  client := fun _ => .ok ⟨1, none⟩
  executeWrite := true

def licenseRepair : GuardedProjectionRepairPrWriterInput where
  plan := { repairPlan .ascii licenseReport "Verifrax/ADMISSORIUM" none none none with
    dry_run := false }
  client := fun _ => .ok ⟨1, none⟩
  executeWrite := true

def licenseIssue : GuardedQuarantineIssueWriterInput where
  plan := { (buildQuarantineIssuePlan .ascii ⟨licenseReport, "Verifrax/ADMISSORIUM",
    none⟩).toOption.get (by decide +kernel) with dry_run := false }
  client := fun _ => .ok ⟨1, none⟩
  executeWrite := true

def switchSetTo (value : String) : Env := Record.ofList [("ADMISSORIUM_WRITE_DISABLED", value)]

/-- The value `"1"` stops the dispatcher and not the write decision; and the value
`"true"` of the process stops every reader while a pull request is written. -/
theorem switch_not_oneStop :
    ¬ OneStop shippedHost (some (switchSetTo "1")) {} licenseCheckRun licenseRepair licenseIssue ∧
    ¬ OneStop ⟨switchSetTo "true", shipped⟩ none {} licenseCheckRun licenseRepair licenseIssue := by
  constructor
  · intro hone
    have hstop := (hone ⟨.dispatchWebhookRoute, by decide +kernel⟩).1 .decideWrite
    revert hstop
    decide +kernel
  · intro hone
    refine (hone ⟨.dispatchWebhookRoute, by decide +kernel⟩).2 (Or.inr (Or.inl ?_))
    rw [pullRequest_called_iff]
    exact ⟨⟨⟨"Verifrax", "ADMISSORIUM"⟩, by decide +kernel⟩, rfl, rfl, by decide +kernel⟩

end Admissorium.App.EmergencySwitch
