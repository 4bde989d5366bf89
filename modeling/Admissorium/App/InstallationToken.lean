import Admissorium.GuardedCalls
import Admissorium.JavaScript.Text
import Admissorium.Policies

/-!
# Installation tokens

`app/installation-token-plan` plans the exchange of an installation token and
`app/installation-token-exchange-adapter` performs it through a client, behind gates
of its own.
-/
namespace Admissorium.App.InstallationToken
set_option autoImplicit false

open JavaScript Policies Guarded

/-! ## The plan -/

inductive InstallationTokenPlanMode where
  | audit
  | dryRun
  | guardedExchange
  deriving DecidableEq, Repr

inductive InstallationTokenPlanDecision where
  | noTokenExchange
  | denyEmergencyStop
  | denyMissingAppId
  | denyMissingInstallationId
  | denyMissingPrivateKeyRef
  | denyRawPrivateKeyMaterial
  | readyForGuardedExchange
  deriving DecidableEq, Repr

inductive Access where
  | read
  | write
  deriving DecidableEq, Repr

structure InstallationTokenPermissions where
  metadata : Access
  contents : Access
  pull_requests : Access
  issues : Access
  checks : Access
  actions : Access
  statuses : Access
  deriving DecidableEq, Repr

/-- `metadata` and `actions` of a request are never read. -/
structure RequestedPermissions where
  contents : Option Access := none
  pull_requests : Option Access := none
  issues : Option Access := none
  checks : Option Access := none
  statuses : Option Access := none

/-- A `ttlSeconds` that is not finite counts as absent. -/
structure InstallationTokenPlanInput where
  mode : Option InstallationTokenPlanMode := none
  repositoryFullName : String
  appId : Option String := none
  installationId : Option String := none
  privateKeyRef : Option String := none
  requestedRepositories : Option (List String) := none
  requestedPermissions : Option RequestedPermissions := none
  ttlSeconds : Option Number := none
  env : Option Env := none

structure InstallationTokenPlan where
  mode : InstallationTokenPlanMode
  repository : String
  dry_run : Bool
  write_behavior : String
  token_exchange : String
  allowed_to_exchange : Bool
  decision : InstallationTokenPlanDecision
  reasons : List String
  app_id_ref : Option String
  installation_id_ref : Option String
  private_key_ref : Option String
  requested_repositories : List String
  requested_permissions : InstallationTokenPermissions
  ttl_seconds : Number
  required_guards : List String
  forbidden_materialization : List String
  deriving DecidableEq, Repr

def defaultPermissions : InstallationTokenPermissions where
  metadata := .read
  contents := .read
  pull_requests := .write
  issues := .write
  checks := .write
  actions := .read
  statuses := .write

def requiredGuards : List String :=
  ["ADMISSORIUM_WRITE_DISABLED must not be true",
    "ADMISSORIUM_TOKEN_EXCHANGE_DISABLED must not be true",
    "mode must be guarded-exchange",
    "app id must be supplied by reference",
    "installation id must be supplied by reference",
    "private key must be supplied by reference",
    "raw private key material must never be passed into this planner",
    "caller must provide the actual GitHub client outside this planner"]

def forbiddenMaterialization : List String :=
  ["private key bytes", "JWT signing", "installation token exchange",
    "installation token persistence", "GitHub API client construction",
    "repository contents mutation", "branch creation", "pull request creation",
    "issue creation", "check-run creation"]

def isEnabled (value : Option String) : Bool :=
  value = some "true" || value = some "1" || value = some "yes"

def cleanRef (value : Option String) : Option String :=
  match value with
  | none => none
  | some value =>
      let trimmed := Text.trim value
      if trimmed.length = 0 then none else some trimmed

def containsRawPrivateKeyMaterial (value : Option String) : Bool :=
  match value with
  | none => false
  | some value =>
      Text.includes value "-----BEGIN" || Text.includes value "PRIVATE KEY-----" ||
        Text.includes value "\n" || Text.includes value "\r"

/-- `Math.trunc`, on numbers that are not negative here. -/
def ttl (input : Option Number) : Number :=
  match input with
  | none => 3600
  | some seconds =>
      if seconds < 60 then 60 else if seconds > 3600 then 3600 else (seconds.floor : Number)

def permissions (input : Option RequestedPermissions) : InstallationTokenPermissions :=
  let requested := input.getD {}
  { metadata := .read
    contents := requested.contents.getD defaultPermissions.contents
    pull_requests := requested.pull_requests.getD defaultPermissions.pull_requests
    issues := requested.issues.getD defaultPermissions.issues
    checks := requested.checks.getD defaultPermissions.checks
    actions := .read
    statuses := requested.statuses.getD defaultPermissions.statuses }

/-- The switches that stop planner and adapter. -/
def exchangeStopped (env : Env) : Bool :=
  isEnabled (env "ADMISSORIUM_WRITE_DISABLED") ||
    isEnabled (env "ADMISSORIUM_TOKEN_EXCHANGE_DISABLED")

structure PlanOutcome where
  decision : InstallationTokenPlanDecision
  allowedToExchange : Bool
  reason : String

/-- The chain of conditions, first match first. -/
def planOutcome (env : Env) (mode : InstallationTokenPlanMode)
    (appIdRef installationIdRef privateKeyRef : Option String) : PlanOutcome :=
  if exchangeStopped env then
    ⟨.denyEmergencyStop, false, "Emergency stop prevents installation token exchange."⟩
  else if containsRawPrivateKeyMaterial privateKeyRef then
    ⟨.denyRawPrivateKeyMaterial, false,
      "Private key material was provided directly instead of by reference."⟩
  else if mode ≠ .guardedExchange then
    ⟨.noTokenExchange, false,
      "Planner is not in guarded-exchange mode; no token exchange may occur."⟩
  else if appIdRef = none then
    ⟨.denyMissingAppId, false, "GitHub App id reference is required before guarded exchange."⟩
  else if installationIdRef = none then
    ⟨.denyMissingInstallationId, false,
      "GitHub App installation id reference is required before guarded exchange."⟩
  else if privateKeyRef = none then
    ⟨.denyMissingPrivateKeyRef, false,
      "GitHub App private key reference is required before guarded exchange."⟩
  else
    ⟨.readyForGuardedExchange, true,
      "All request preconditions are present, but this planner still performs no token exchange."⟩

def buildInstallationTokenPlan (host : Host) (input : InstallationTokenPlanInput) :
    InstallationTokenPlan :=
  let env := input.env.getD host.env
  let mode := input.mode.getD .dryRun
  let appIdRef := cleanRef input.appId
  let installationIdRef := cleanRef input.installationId
  let privateKeyRef := cleanRef input.privateKeyRef
  let outcome := planOutcome env mode appIdRef installationIdRef privateKeyRef
  { mode
    repository := input.repositoryFullName
    dry_run := true
    write_behavior := "NONE"
    token_exchange := "NOT_PERFORMED"
    allowed_to_exchange := outcome.allowedToExchange
    decision := outcome.decision
    reasons := [outcome.reason]
    app_id_ref := appIdRef
    installation_id_ref := installationIdRef
    private_key_ref := privateKeyRef
    requested_repositories :=
      match input.requestedRepositories with
      | some (first :: rest) => first :: rest
      | _ => [input.repositoryFullName]
    requested_permissions := permissions input.requestedPermissions
    ttl_seconds := ttl input.ttlSeconds
    required_guards := requiredGuards
    forbidden_materialization := forbiddenMaterialization }

/-- A plan is denied by the emergency stop exactly when a switch is set. -/
theorem plan_stopped_iff (host : Host) (input : InstallationTokenPlanInput) :
    (buildInstallationTokenPlan host input).decision = .denyEmergencyStop ↔
      exchangeStopped (input.env.getD host.env) = true := by
  have hdecision : (buildInstallationTokenPlan host input).decision =
      (planOutcome (input.env.getD host.env) (input.mode.getD .dryRun) (cleanRef input.appId)
        (cleanRef input.installationId) (cleanRef input.privateKeyRef)).decision := rfl
  rw [hdecision, planOutcome]
  cases exchangeStopped (input.env.getD host.env) with
  | true => simp
  | false =>
      simp only [Bool.false_eq_true, if_false, iff_false]
      repeat' split
      all_goals simp

/-! ## The exchange -/

structure InstallationTokenExchangeClientInput where
  appIdRef : String
  installationIdRef : String
  privateKeyRef : String
  repositories : List String
  permissions : InstallationTokenPermissions
  ttlSeconds : Number
  deriving DecidableEq, Repr

structure InstallationTokenExchangeClientResult where
  tokenRef : String
  expiresAt : String
  permissions : InstallationTokenPermissions
  repositories : List String

inductive ExchangeDecision where
  | skippedDryRunPlan
  | deniedExplicitExecutionRequired
  | deniedEmergencyStop
  | deniedPlanNotReady
  | deniedRawTokenMaterial
  | exchangedTokenReference
  deriving DecidableEq, Repr

structure ExchangeResult where
  decision : ExchangeDecision
  client_called : Bool
  token_persisted : Bool
  token_material_returned : Bool
  write_behavior : String
  token_ref : Option String
  expires_at : Option String
  reasons : List String
  deriving DecidableEq, Repr

structure GuardedInstallationTokenExchangeInput where
  plan : InstallationTokenPlan
  client : InstallationTokenExchangeClientInput →
    Except JsError InstallationTokenExchangeClientResult
  executeExchange : Option Bool := none
  env : Option Env := none

def containsRawTokenMaterial (value : String) : Bool :=
  Text.startsWith value "ghs_" || Text.startsWith value "ghu_" ||
    Text.startsWith value "github_pat_" || Text.length value > 96

def refusal (decision : ExchangeDecision) (client_called : Bool) (reason : String) :
    ExchangeResult where
  decision
  client_called
  token_persisted := false
  token_material_returned := false
  write_behavior := "NONE"
  token_ref := none
  expires_at := none
  reasons := [reason]

/-- The plan is ready, with its three references: what the client is sent. -/
def exchangeRequest (plan : InstallationTokenPlan) : Option InstallationTokenExchangeClientInput :=
  match plan.app_id_ref, plan.installation_id_ref, plan.private_key_ref with
  | some appIdRef, some installationIdRef, some privateKeyRef =>
      if plan.decision = .readyForGuardedExchange ∧ plan.allowed_to_exchange = true then
        some {
          appIdRef
          installationIdRef
          privateKeyRef
          repositories := plan.requested_repositories
          permissions := plan.requested_permissions
          ttlSeconds := plan.ttl_seconds }
      else none
  | _, _, _ => none

def concludeExchange (exchanged : InstallationTokenExchangeClientResult) : ExchangeResult :=
  if containsRawTokenMaterial exchanged.tokenRef then
    refusal .deniedRawTokenMaterial true
      "Client returned raw token-like material instead of a non-secret token reference."
  else
    { decision := .exchangedTokenReference
      client_called := true
      token_persisted := false
      token_material_returned := false
      write_behavior := "NONE"
      token_ref := some exchanged.tokenRef
      expires_at := some exchanged.expiresAt
      reasons :=
        ["Client returned a non-secret token reference; adapter did not persist token material."] }

def guardedInstallationTokenExchange (host : Host) (input : GuardedInstallationTokenExchangeInput) :
    Run JsError InstallationTokenExchangeClientInput ExchangeResult :=
  let env := input.env.getD host.env
  if input.plan.dry_run || input.plan.token_exchange ≠ "NOT_PERFORMED" then
    ⟨[], .ok (refusal .skippedDryRunPlan false
      "Plan is dry-run or already represents token exchange state.")⟩
  else if input.executeExchange ≠ some true then
    ⟨[], .ok (refusal .deniedExplicitExecutionRequired false
      "Explicit executeExchange=true is required.")⟩
  else if exchangeStopped env then
    ⟨[], .ok (refusal .deniedEmergencyStop false
      "Emergency stop prevents installation token exchange.")⟩
  else
    match exchangeRequest input.plan with
    | none =>
        ⟨[], .ok (refusal .deniedPlanNotReady false
          "Installation token plan is not ready for guarded exchange.")⟩
    | some request => ⟨[request], (input.client request).map concludeExchange⟩

/-- The caller executes a plan that is not a dry run. -/
def Executed (input : GuardedInstallationTokenExchangeInput) : Prop :=
  input.plan.dry_run = false ∧ input.plan.token_exchange = "NOT_PERFORMED" ∧
    input.executeExchange = some true

theorem executed_iff (input : GuardedInstallationTokenExchangeInput) :
    Executed input ↔ ¬ (input.plan.dry_run || input.plan.token_exchange ≠ "NOT_PERFORMED") = true ∧
      ¬ input.executeExchange ≠ some true := by
  simp only [Executed, Bool.or_eq_true, decide_eq_true_iff, not_or, Bool.not_eq_true, ne_eq,
    not_not, and_assoc]

/-- Past the two gates on the caller's intent, the switches come first. -/
theorem exchange_of_executed (host : Host) {input : GuardedInstallationTokenExchangeInput}
    (h : Executed input) :
    guardedInstallationTokenExchange host input =
      if exchangeStopped (input.env.getD host.env) then
        ⟨[], .ok (refusal .deniedEmergencyStop false
          "Emergency stop prevents installation token exchange.")⟩
      else
        match exchangeRequest input.plan with
        | none =>
            ⟨[], .ok (refusal .deniedPlanNotReady false
              "Installation token plan is not ready for guarded exchange.")⟩
        | some request => ⟨[request], (input.client request).map concludeExchange⟩ := by
  obtain ⟨hdry, hexec⟩ := (executed_iff input).mp h
  rw [guardedInstallationTokenExchange, if_neg hdry, if_neg hexec]

/-- An executed exchange is denied by the emergency stop exactly when a switch is set. -/
theorem exchange_stopped_iff (host : Host) {input : GuardedInstallationTokenExchangeInput}
    (h : Executed input) :
    (∃ result, (guardedInstallationTokenExchange host input).outcome = .ok result ∧
      result.decision = .deniedEmergencyStop) ↔
      exchangeStopped (input.env.getD host.env) = true := by
  have hconclude : ∀ exchanged, (concludeExchange exchanged).decision ≠ .deniedEmergencyStop := by
    intro exchanged
    unfold concludeExchange
    split <;> simp [refusal]
  rw [exchange_of_executed host h]
  cases exchangeStopped (input.env.getD host.env) with
  | true => simp [refusal]
  | false =>
      simp only [Bool.false_eq_true, if_false, iff_false, not_exists, not_and]
      intro result hresult
      split at hresult
      · cases hresult
        simp [refusal]
      · rename_i request _
        cases hc : input.client request with
        | error e =>
            rw [hc] at hresult
            cases hresult
        | ok exchanged =>
            rw [hc] at hresult
            cases hresult
            exact hconclude exchanged

end Admissorium.App.InstallationToken
