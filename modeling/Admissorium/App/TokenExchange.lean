import Admissorium.App.InstallationToken
import Mathlib.Algebra.Order.Floor.Ring
import Mathlib.Data.Rat.Floor

/-!
# From the token plan to the exchange

The planner and the exchange adapter have a chain of guards each, and an environment
each. A plan of the planner with `dry_run` switched off reaches the client of the
adapter only past both chains, so what the client is sent has passed every guard of
either module (`exchange_guarded`).
-/
namespace Admissorium.App.TokenExchange
set_option autoImplicit false

open JavaScript Policies Guarded InstallationToken

/-! ## The lifetime as a number of the language -/

/-- A value of type `number`. -/
inductive JsNumber where
  | finite (q : Number)
  | nan
  | infinite (negative : Bool)
  deriving DecidableEq

/-- The value where `Number.isFinite`. -/
def JsNumber.finite? : JsNumber → Option Number
  | finite q => some q
  | nan | infinite _ => none

/-- `Math.trunc`. -/
def trunc (q : Number) : Number :=
  if q < 0 then -((-q).floor : Number) else (q.floor : Number)

/-- `ttl` for whatever number `ttlSeconds` may hold. -/
def ttlSeconds (input : Option JsNumber) : Number :=
  match input with
  | none | some .nan | some (.infinite _) => 3600
  | some (.finite seconds) =>
      if seconds < 60 then 60 else if seconds > 3600 then 3600 else trunc seconds

/-- An input of the planner with this number as `ttlSeconds`. -/
def withTtlSeconds (input : InstallationTokenPlanInput) (seconds : Option JsNumber) :
    InstallationTokenPlanInput :=
  { input with ttlSeconds := seconds.bind JsNumber.finite? }

theorem ttl_finite (seconds : Option JsNumber) :
    ttl (seconds.bind JsNumber.finite?) = ttlSeconds seconds := by
  cases seconds with
  | none => rfl
  | some seconds =>
      cases seconds with
      | nan => rfl
      | infinite negative => rfl
      | finite q =>
          change (if q < 60 then 60 else if q > 3600 then 3600 else (q.floor : Number)) = _
          rw [ttlSeconds, trunc]
          by_cases hlow : q < 60
          · rw [if_pos hlow, if_pos hlow]
          · have hpos : ¬ q < 0 := fun h => hlow (h.trans (by norm_num))
            rw [if_neg hpos]

theorem plan_ttl_seconds (host : Host) (input : InstallationTokenPlanInput)
    (seconds : Option JsNumber) :
    (buildInstallationTokenPlan host (withTtlSeconds input seconds)).ttl_seconds =
      ttlSeconds seconds :=
  ttl_finite seconds

/-- An integer number of seconds between a minute and an hour. -/
theorem ttlSeconds_bounds (seconds : Option JsNumber) :
    ∃ n : Nat, ttlSeconds seconds = n ∧ 60 ≤ n ∧ n ≤ 3600 := by
  unfold ttlSeconds
  split
  · exact ⟨3600, rfl, by norm_num, le_rfl⟩
  · exact ⟨3600, rfl, by norm_num, le_rfl⟩
  · exact ⟨3600, rfl, by norm_num, le_rfl⟩
  · rename_i q
    by_cases hlow : q < 60
    · exact ⟨60, if_pos hlow, le_rfl, by norm_num⟩
    by_cases hhigh : q > 3600
    · exact ⟨3600, by rw [if_neg hlow, if_pos hhigh]; rfl, by norm_num, le_rfl⟩
    rw [if_neg hlow, if_neg hhigh, trunc]
    rw [not_lt] at hlow hhigh
    have hpos : ¬ q < 0 := not_lt.mpr (le_trans (by norm_num) hlow)
    have hfloor : q.floor = ⌊q⌋ := rfl
    have h60 : (60 : ℤ) ≤ q.floor := by
      rw [hfloor, Int.le_floor]
      exact_mod_cast hlow
    have h3600 : q.floor ≤ 3600 := by
      rw [hfloor]
      exact Int.floor_le_iff.mpr (by push_cast; linarith)
    refine ⟨q.floor.toNat, ?_, by omega, by omega⟩
    rw [if_neg hpos]
    have hcast : (q.floor.toNat : ℤ) = q.floor := Int.toNat_of_nonneg (by omega)
    exact_mod_cast hcast.symm

/-! ## What each chain of guards lets through -/

theorem cleanRef_some {value : Option String} {ref : String} (h : cleanRef value = some ref) :
    ref ≠ "" ∧ Text.trim ref = ref := by
  cases value with
  | none => cases h
  | some value =>
      by_cases hempty : (Text.trim value).length = 0
      · simp [cleanRef, hempty] at h
      · simp only [cleanRef, hempty, if_false, Option.some.injEq] at h
        subst h
        refine ⟨?_, Text.trim_trim value⟩
        intro hnil
        exact hempty (by rw [hnil]; rfl)

/-- What the planner asked of an input it declares ready. -/
structure PlanReady (host : Host) (input : InstallationTokenPlanInput) : Prop where
  running : exchangeStopped (input.env.getD host.env) = false
  privateKey : containsRawPrivateKeyMaterial (cleanRef input.privateKeyRef) = false
  mode : input.mode = some .guardedExchange

theorem plan_ready {host : Host} {input : InstallationTokenPlanInput}
    (h : (buildInstallationTokenPlan host input).decision = .readyForGuardedExchange) :
    PlanReady host input := by
  have hdecision : (buildInstallationTokenPlan host input).decision =
      (planOutcome (input.env.getD host.env) (input.mode.getD .dryRun) (cleanRef input.appId)
        (cleanRef input.installationId) (cleanRef input.privateKeyRef)).decision := rfl
  rw [hdecision, planOutcome] at h
  by_cases hstop : exchangeStopped (input.env.getD host.env) = true
  · rw [if_pos hstop] at h
    cases h
  by_cases hraw : containsRawPrivateKeyMaterial (cleanRef input.privateKeyRef) = true
  · rw [if_neg hstop, if_pos hraw] at h
    cases h
  by_cases hmode : input.mode.getD .dryRun ≠ .guardedExchange
  · rw [if_neg hstop, if_neg hraw, if_pos hmode] at h
    cases h
  refine ⟨by simpa using hstop, by simpa using hraw, ?_⟩
  cases hm : input.mode with
  | none =>
      rw [hm] at hmode
      exact absurd (by decide) hmode
  | some mode =>
      rw [hm, Option.getD_some, not_not] at hmode
      rw [hmode]

/-- A request is made of a plan that is ready, from its references and its lifetime. -/
theorem exchangeRequest_some {plan : InstallationTokenPlan}
    {request : InstallationTokenExchangeClientInput} (h : exchangeRequest plan = some request) :
    plan.decision = .readyForGuardedExchange ∧ plan.app_id_ref = some request.appIdRef ∧
      plan.installation_id_ref = some request.installationIdRef ∧
      plan.private_key_ref = some request.privateKeyRef ∧
      request.ttlSeconds = plan.ttl_seconds := by
  unfold exchangeRequest at h
  split at h
  · rename_i happ hinstallation hkey
    by_cases hready : plan.decision = .readyForGuardedExchange ∧ plan.allowed_to_exchange = true
    · rw [if_pos hready] at h
      cases h
      exact ⟨hready.1, happ, hinstallation, hkey, rfl⟩
    · rw [if_neg hready] at h
      cases h
  · cases h

/-- The client is called by the last branch only. -/
theorem mem_calls_iff {host : Host} {input : GuardedInstallationTokenExchangeInput}
    {request : InstallationTokenExchangeClientInput} :
    request ∈ (guardedInstallationTokenExchange host input).calls ↔
      Executed input ∧ exchangeStopped (input.env.getD host.env) = false ∧
        exchangeRequest input.plan = some request := by
  by_cases hexec : Executed input
  · rw [exchange_of_executed host hexec]
    cases exchangeStopped (input.env.getD host.env) with
    | true => simp
    | false =>
        cases hrequest : exchangeRequest input.plan with
        | none => simp
        | some prepared => simp [hexec, eq_comm]
  · have hclosed := hexec
    rw [executed_iff, not_and_or, not_not, not_not] at hclosed
    simp only [hexec, false_and, iff_false]
    rw [guardedInstallationTokenExchange]
    rcases hclosed with hdry | hnot
    · rw [if_pos hdry]
      exact List.not_mem_nil
    · split <;> exact List.not_mem_nil

/-- A reference that is handed on is short and not of the form of a token. -/
theorem token_ref_clean {host : Host} {input : GuardedInstallationTokenExchangeInput}
    {result : ExchangeResult} {token : String}
    (h : (guardedInstallationTokenExchange host input).outcome = .ok result)
    (htoken : result.token_ref = some token) : containsRawTokenMaterial token = false := by
  have hrefused : ∀ decision called reason, (refusal decision called reason).token_ref ≠
      some token := fun _ _ _ => by simp [refusal]
  unfold guardedInstallationTokenExchange at h
  simp only at h
  repeat' split at h
  iterate 4
    · cases h
      exact absurd htoken (hrefused _ _ _)
  · rename_i request _
    cases hclient : input.client request with
    | error e =>
        rw [hclient] at h
        cases h
    | ok exchanged =>
        rw [hclient] at h
        cases h
        rw [concludeExchange] at htoken
        split at htoken
        · exact absurd htoken (hrefused _ _ _)
        · cases htoken
          simpa using ‹¬ containsRawTokenMaterial exchanged.tokenRef = true›

/-! ## Both chains together -/

/-- Neither switch holds one of the three words that set it. -/
def SwitchesOff (env : Env) : Prop :=
  ∀ switch ∈ ["ADMISSORIUM_WRITE_DISABLED", "ADMISSORIUM_TOKEN_EXCHANGE_DISABLED"],
    ∀ word ∈ ["true", "1", "yes"], env switch ≠ some word

theorem switchesOff_of_running {env : Env} (h : exchangeStopped env = false) : SwitchesOff env := by
  simp only [exchangeStopped, isEnabled, Bool.or_eq_false_iff, decide_eq_false_iff_not] at h
  simp only [SwitchesOff, List.forall_mem_cons, List.not_mem_nil, false_imp_iff, implies_true,
    and_true]
  exact ⟨⟨h.1.1.1, h.1.1.2, h.1.2⟩, h.2.1.1, h.2.1.2, h.2.2⟩

/-- The exchange of a plan that is taken out of its dry run. -/
def exchangeOfPlan (plan : InstallationTokenPlan)
    (client : InstallationTokenExchangeClientInput →
      Except JsError InstallationTokenExchangeClientResult)
    (executeExchange : Option Bool) (env : Option Env) : GuardedInstallationTokenExchangeInput where
  plan := { plan with dry_run := false }
  client
  executeExchange
  env

/-- What has been guarded once the client is sent a request. -/
structure GuardedExchange (plannerEnv adapterEnv : Env) (mode : Option InstallationTokenPlanMode)
    (executeExchange : Option Bool) (request : InstallationTokenExchangeClientInput)
    (outcome : Except JsError ExchangeResult) : Prop where
  executed : executeExchange = some true
  mode : mode = some .guardedExchange
  planner : SwitchesOff plannerEnv
  adapter : SwitchesOff adapterEnv
  references : ∀ ref ∈ [request.appIdRef, request.installationIdRef, request.privateKeyRef],
    ref ≠ "" ∧ Text.trim ref = ref
  privateKey : ∀ part ∈ ["-----BEGIN", "PRIVATE KEY-----", "\r", "\n"],
    Text.includes request.privateKeyRef part = false
  lifetime : ∃ n : Nat, request.ttlSeconds = n ∧ 60 ≤ n ∧ n ≤ 3600
  token : ∀ result token, outcome = .ok result → result.token_ref = some token →
    (∀ head ∈ ["ghs_", "ghu_", "github_pat_"], Text.startsWith token head = false) ∧
      Text.length token ≤ 96

/-- Whatever the input, the two environments, the answer to the question whether to
execute and the client: a request that reaches the client has passed all guards. -/
theorem exchange_guarded (plannerHost adapterHost : Host) (input : InstallationTokenPlanInput)
    (seconds : Option JsNumber)
    (client : InstallationTokenExchangeClientInput →
      Except JsError InstallationTokenExchangeClientResult)
    (executeExchange : Option Bool) (env : Option Env)
    (request : InstallationTokenExchangeClientInput)
    (hcalled : request ∈ (guardedInstallationTokenExchange adapterHost
      (exchangeOfPlan (buildInstallationTokenPlan plannerHost (withTtlSeconds input seconds))
        client executeExchange env)).calls) :
    GuardedExchange (input.env.getD plannerHost.env) (env.getD adapterHost.env) input.mode
      executeExchange request
      (guardedInstallationTokenExchange adapterHost
        (exchangeOfPlan (buildInstallationTokenPlan plannerHost (withTtlSeconds input seconds))
          client executeExchange env)).outcome := by
  obtain ⟨⟨_, _, hexecute⟩, hadapter, hrequest⟩ := mem_calls_iff.mp hcalled
  obtain ⟨hready, happ, hinstallation, hkey, hlifetime⟩ := exchangeRequest_some hrequest
  obtain ⟨hplanner, hraw, hmode⟩ := plan_ready hready
  have hkeyRef : cleanRef input.privateKeyRef = some request.privateKeyRef := hkey
  refine ⟨hexecute, hmode, switchesOff_of_running hplanner, switchesOff_of_running hadapter,
    ?_, ?_, ?_, ?_⟩
  · have happRef : cleanRef input.appId = some request.appIdRef := happ
    have hinstallationRef : cleanRef input.installationId = some request.installationIdRef :=
      hinstallation
    simp only [List.forall_mem_cons]
    exact ⟨cleanRef_some happRef, cleanRef_some hinstallationRef, cleanRef_some hkeyRef,
      fun _ h => absurd h List.not_mem_nil⟩
  · have hraw' : containsRawPrivateKeyMaterial (cleanRef input.privateKeyRef) = false := hraw
    rw [hkeyRef] at hraw'
    simp only [containsRawPrivateKeyMaterial, Bool.or_eq_false_iff] at hraw'
    obtain ⟨⟨⟨hbegin, hend⟩, hfeed⟩, hreturn⟩ := hraw'
    simp only [List.forall_mem_cons]
    exact ⟨hbegin, hend, hreturn, hfeed, fun _ h => absurd h List.not_mem_nil⟩
  · obtain ⟨n, hn, hbounds⟩ := ttlSeconds_bounds seconds
    refine ⟨n, ?_, hbounds⟩
    rw [hlifetime, ← hn]
    exact plan_ttl_seconds plannerHost input seconds
  · intro result token hresult htoken
    have hclean := token_ref_clean hresult htoken
    simp only [containsRawTokenMaterial, Bool.or_eq_false_iff, decide_eq_false_iff_not,
      not_lt] at hclean
    obtain ⟨⟨⟨hserver, huser⟩, hpat⟩, hlength⟩ := hclean
    simp only [List.forall_mem_cons]
    exact ⟨⟨hserver, huser, hpat, fun _ h => absurd h List.not_mem_nil⟩, hlength⟩

/-- A planner's input with references around which blanks stand. -/
def readyInput : InstallationTokenPlanInput where
  mode := some .guardedExchange
  repositoryFullName := "verifrax/admissorium"
  appId := some " env:APP_ID "
  installationId := some "env:INSTALLATION_ID"
  privateKeyRef := some "vault:app-key\n"
  env := some (fun _ => none)

/-- A client that answers with a reference. -/
def vaultClient (request : InstallationTokenExchangeClientInput) :
    Except JsError InstallationTokenExchangeClientResult :=
  .ok ⟨"vault:installation-token", "2026-01-01T01:00:00Z", request.permissions,
    request.repositories⟩

def readyRequest : InstallationTokenExchangeClientInput where
  appIdRef := "env:APP_ID"
  installationIdRef := "env:INSTALLATION_ID"
  privateKeyRef := "vault:app-key"
  repositories := ["verifrax/admissorium"]
  permissions := defaultPermissions
  ttlSeconds := 3600

/-- A process without environment. -/
def bareHost : Host := ⟨fun _ => none, shipped⟩

theorem exchange_guarded_readyInput :
    GuardedExchange (fun _ => none) (fun _ => none) (some .guardedExchange) (some true) readyRequest
      (guardedInstallationTokenExchange bareHost
        (exchangeOfPlan
          (buildInstallationTokenPlan bareHost (withTtlSeconds readyInput (some .nan)))
          vaultClient (some true) none)).outcome :=
  exchange_guarded bareHost bareHost readyInput (some .nan) vaultClient (some true) none
    readyRequest (mem_calls_iff.mpr ⟨⟨rfl, rfl, rfl⟩, by decide, by decide +kernel⟩)

end Admissorium.App.TokenExchange
