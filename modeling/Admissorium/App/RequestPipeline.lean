import Admissorium.App.InstallationToken
import Admissorium.App.WebhookRequest
import Admissorium.App.WriteDecision
import Admissorium.App.Plans

/-!
# The request pipeline

`app/actuator-request-pipeline-plan` joins the webhook handler, the installation token
plan and the dry-run plans of `app/actuator-dry-run-orchestrator`. Whatever the handler
accepts is planned: its routes carry the commit of the event, except that a ping, which is
accepted as acknowledged, has none.
-/
namespace Admissorium.App.RequestPipeline
set_option autoImplicit false

open JavaScript Policies Permissions Reports Plans InstallationToken WebhookRoute WebhookRequest
open WriteDecision

/-! ## The orchestrator -/

structure ActuatorDryRunOrchestrationInput where
  report : AdmissibilityReport
  repositoryFullName : String
  headSha : String
  env : Option Env := none

structure ActuatorDryRunSummary where
  check_run_conclusion : CheckConclusion
  projection_repair_required : Bool
  projection_repair_change_count : Nat
  projection_repair_blocked_count : Nat
  quarantine_issue_required : Bool
  quarantine_finding_count : Nat
  write_disabled : Bool

structure ActuatorDryRunOrchestration where
  dry_run : Bool
  write_behavior : String
  repository : String
  head_sha : String
  run_id : String
  admissibility_verdict : AdmissibilityVerdict
  check_run_plan : CheckRunPlan
  projection_repair_pr_plan : ProjectionRepairPrPlan
  quarantine_issue_plan : QuarantineIssuePlan
  summary : ActuatorDryRunSummary

def writeDisabled (env : Option Env) : Bool :=
  env.any (fun env => env "ADMISSORIUM_WRITE_DISABLED" = some "true")

def orchestrateActuatorDryRun (rt : Runtime) (host : Host)
    (input : ActuatorDryRunOrchestrationInput) : Except JsError ActuatorDryRunOrchestration := do
  let checkRunPlan ← buildCheckRunPlan rt host {
    report := input.report
    repositoryFullName := input.repositoryFullName
    headSha := input.headSha
    env := input.env }
  let projectionRepairPrPlan := buildProjectionRepairPrPlan rt {
    report := input.report
    repositoryFullName := input.repositoryFullName }
  let quarantineIssuePlan ← buildQuarantineIssuePlan rt {
    report := input.report
    repositoryFullName := input.repositoryFullName }
  return {
    dry_run := true
    write_behavior := "NONE"
    repository := input.repositoryFullName
    head_sha := input.headSha
    run_id := input.report.run_id
    admissibility_verdict := input.report.verdict
    check_run_plan := checkRunPlan
    projection_repair_pr_plan := projectionRepairPrPlan
    quarantine_issue_plan := quarantineIssuePlan
    summary := {
      check_run_conclusion := checkRunPlan.conclusion
      projection_repair_required := projectionRepairPrPlan.required
      projection_repair_change_count := projectionRepairPrPlan.change_count
      projection_repair_blocked_count := projectionRepairPrPlan.blocked_count
      quarantine_issue_required := quarantineIssuePlan.required
      quarantine_finding_count := quarantineIssuePlan.finding_count
      write_disabled := writeDisabled input.env } }

/-! ## The pipeline -/

inductive ActuatorRequestPipelineDecision where
  | pipelinePlanned
  | pipelineDenied
  deriving DecidableEq, Repr

structure ActuatorRequestPipelineInput where
  request : WebhookRequestHandlerInput
  report : AdmissibilityReport
  repositoryFullName : Option String := none
  appIdRef : Option String := none
  installationIdRef : Option String := none
  privateKeyRef : Option String := none
  env : Option Env := none

/-- `null` is `none`. -/
structure ActuatorRequestPipelinePlan where
  decision : ActuatorRequestPipelineDecision
  accepted : Bool
  repository : Option String
  head_sha : Option String
  webhook : WebhookRequestHandlerResult
  installation_token_plan : Option InstallationTokenPlan
  actuator_orchestration : Option ActuatorDryRunOrchestration
  write_behavior : String
  server_binding : String
  execution : String
  token_exchange : String
  truth_mutation : Bool
  registry_mutation : Bool
  reasons : List String

def resolvedRepository (input : ActuatorRequestPipelineInput)
    (webhook : WebhookRequestHandlerResult) : Option String :=
  input.repositoryFullName.or (webhook.route_plan.bind (·.repository))

def envOf (input : ActuatorRequestPipelineInput) : Option Env := input.env.or input.request.env

def denied (webhook : WebhookRequestHandlerResult) : ActuatorRequestPipelinePlan where
  decision := .pipelineDenied
  accepted := false
  repository := webhook.route_plan.bind (·.repository)
  head_sha := webhook.route_plan.bind (·.head_sha)
  webhook
  installation_token_plan := none
  actuator_orchestration := none
  write_behavior := "NONE"
  server_binding := "NONE"
  execution := "PLAN_ONLY"
  token_exchange := "NOT_PERFORMED"
  truth_mutation := false
  registry_mutation := false
  reasons :=
    if webhook.reasons.length > 0 then webhook.reasons
    else ["Webhook request did not produce a routable plan."]

def tokenPlanInput (input : ActuatorRequestPipelineInput) (repository : String) :
    InstallationTokenPlanInput where
  repositoryFullName := repository
  mode := some .dryRun
  appId := some (input.appIdRef.getD "env:ADMISSORIUM_GITHUB_APP_ID")
  installationId := some (input.installationIdRef.getD "env:ADMISSORIUM_GITHUB_INSTALLATION_ID")
  privateKeyRef := some (input.privateKeyRef.getD "env:ADMISSORIUM_GITHUB_PRIVATE_KEY_REF")
  env := envOf input

def planned (webhook : WebhookRequestHandlerResult) (repository : String)
    (head_sha : Option String) (tokenPlan : InstallationTokenPlan)
    (orchestration : ActuatorDryRunOrchestration) : ActuatorRequestPipelinePlan where
  decision := .pipelinePlanned
  accepted := true
  repository := some repository
  head_sha
  webhook
  installation_token_plan := some tokenPlan
  actuator_orchestration := some orchestration
  write_behavior := "NONE"
  server_binding := "NONE"
  execution := "PLAN_ONLY"
  token_exchange := "NOT_PERFORMED"
  truth_mutation := false
  registry_mutation := false
  reasons := [
    "Webhook request produced a route plan.",
    "Installation token request is represented as a non-executing plan.",
    "Actuator orchestration is dry-run only."]

/-- The commit that is planned for when a route has none. -/
def zeroSha : String := "0000000000000000000000000000000000000000"

def buildActuatorRequestPipelinePlan (rt : Runtime) (parse : JsonParse) (host : Host)
    (input : ActuatorRequestPipelineInput) : Except JsError ActuatorRequestPipelinePlan := do
  let webhook := handleWebhookRequest rt parse host input.request
  match webhook.accepted, webhook.route_plan with
  | true, some route_plan =>
      match resolvedRepository input webhook with
      | none => return denied webhook
      | some repository =>
          let headSha := route_plan.head_sha.getD zeroSha
          let installationTokenPlan :=
            buildInstallationTokenPlan host (tokenPlanInput input repository)
          let actuatorOrchestration ← orchestrateActuatorDryRun rt host {
            report := input.report
            repositoryFullName := repository
            headSha
            env := envOf input }
          return planned webhook repository route_plan.head_sha installationTokenPlan
            actuatorOrchestration
  | _, _ => return denied webhook

/-! ## What the orchestrator plans for -/

section Orchestrated
variable (rt : Runtime) (host : Host)

/-- A check-run plan can always be built. -/
theorem exists_buildCheckRunPlan (input : CheckRunPlanInput) :
    ∃ plan, buildCheckRunPlan rt host input = .ok plan ∧ plan.head_sha = input.headSha := by
  have hspared : PathsSpared host (checkRunDecisionInput host input) := fun _ h => nomatch h
  obtain ⟨pd, hpd, _⟩ := (pathDecision_untouched_iff host _).mpr hspared
  obtain ⟨d, hd, _⟩ := decideWrite_spec rt host (checkRunDecisionInput host input) hpd
  rw [buildCheckRunPlan, hd]
  exact ⟨_, rfl, rfl⟩

/-- The evidence of every finding the quarantine issue lists can be written as text. -/
def Evidenced (report : AdmissibilityReport) : Prop :=
  ∀ finding ∈ quarantineRelevantFindings rt report,
    (∃ text, finding.expected.toText rt = .ok text) ∧ ∃ text, finding.observed.toText rt = .ok text

theorem exists_findingLine_iff (finding : Finding) :
    (∃ line, findingLine rt finding = .ok line) ↔
      (∃ text, finding.expected.toText rt = .ok text) ∧
        ∃ text, finding.observed.toText rt = .ok text := by
  constructor
  · intro h
    obtain ⟨_, h⟩ := h
    obtain ⟨expected, he, h⟩ := bind_eq_ok.mp h
    obtain ⟨observed, ho, _⟩ := bind_eq_ok.mp h
    exact ⟨⟨expected, he⟩, observed, ho⟩
  · intro h
    obtain ⟨⟨expected, he⟩, observed, ho⟩ := h
    exact exists_bind_ok he (exists_bind_ok ho ⟨_, rfl⟩)

theorem exists_buildQuarantineIssuePlan_iff (input : QuarantineIssuePlanInput) :
    (∃ plan, buildQuarantineIssuePlan rt input = .ok plan) ↔ Evidenced rt input.report := by
  have hlines := exists_mapM_eq_ok_iff (findingLine rt)
    (quarantineRelevantFindings rt input.report)
  simp only [exists_findingLine_iff] at hlines
  rw [Evidenced, ← hlines]
  constructor
  · intro h
    obtain ⟨_, h⟩ := h
    obtain ⟨lines, hl, _⟩ := bind_eq_ok.mp h
    exact ⟨lines, hl⟩
  · intro h
    obtain ⟨lines, hl⟩ := h
    exact exists_bind_ok hl ⟨_, rfl⟩

/-- The orchestrator plans for the commit it is given. -/
theorem orchestrateActuatorDryRun_heads {input : ActuatorDryRunOrchestrationInput}
    {orchestration : ActuatorDryRunOrchestration}
    (h : orchestrateActuatorDryRun rt host input = .ok orchestration) :
    orchestration.head_sha = input.headSha ∧
      orchestration.check_run_plan.head_sha = input.headSha := by
  obtain ⟨plan, hplan, h⟩ := bind_eq_ok.mp h
  obtain ⟨_, _, h⟩ := bind_eq_ok.mp h
  cases h
  obtain ⟨plan', hplan', hsha⟩ := exists_buildCheckRunPlan rt host {
    report := input.report
    repositoryFullName := input.repositoryFullName
    headSha := input.headSha
    env := input.env }
  obtain rfl := Except.ok.inj (hplan'.symm.trans hplan)
  exact ⟨rfl, hsha⟩

theorem exists_orchestrateActuatorDryRun_iff (input : ActuatorDryRunOrchestrationInput) :
    (∃ orchestration, orchestrateActuatorDryRun rt host input = .ok orchestration) ↔
      Evidenced rt input.report := by
  rw [← exists_buildQuarantineIssuePlan_iff rt ⟨input.report, input.repositoryFullName, none⟩]
  constructor
  · intro h
    obtain ⟨_, h⟩ := h
    obtain ⟨_, _, h⟩ := bind_eq_ok.mp h
    obtain ⟨plan, hplan, _⟩ := bind_eq_ok.mp h
    exact ⟨plan, hplan⟩
  · intro h
    obtain ⟨issuePlan, hissue⟩ := h
    obtain ⟨checkPlan, hcheck, _⟩ := exists_buildCheckRunPlan rt host {
      report := input.report
      repositoryFullName := input.repositoryFullName
      headSha := input.headSha
      env := input.env }
    exact exists_bind_ok hcheck (exists_bind_ok hissue ⟨_, rfl⟩)

end Orchestrated

/-! ## What the pipeline plans for -/

section Planned
variable (rt : Runtime) (parse : JsonParse) (host : Host) (input : ActuatorRequestPipelineInput)

/-- The route a verified request gets. -/
def routeOf (envelope : WebhookRequestEnvelope) : WebhookRoutePlan :=
  dispatchWebhookRoute host (input.request.routeInput envelope)

/-- The handler verifies the request and its route is not a denial. -/
def Accepts (envelope : WebhookRequestEnvelope) : Prop :=
  Verified rt parse input.request envelope ∧
    (routeOf host input envelope).decision.denies = false

/-- The repository the pipeline plans for: the given one, or else that of the payload. -/
def targetRepository (envelope : WebhookRequestEnvelope) : Option String :=
  input.repositoryFullName.or (repository envelope.payload)

def orchestrationInput (envelope : WebhookRequestEnvelope) (repo : String) :
    ActuatorDryRunOrchestrationInput where
  report := input.report
  repositoryFullName := repo
  headSha := (routeOf host input envelope).head_sha.getD zeroSha
  env := envOf input

/-- The plan for an accepted request. -/
def plannedFor (envelope : WebhookRequestEnvelope) (repo : String)
    (orchestration : ActuatorDryRunOrchestration) : ActuatorRequestPipelinePlan :=
  planned (routeResult host input.request envelope) repo (routeOf host input envelope).head_sha
    (buildInstallationTokenPlan host (tokenPlanInput input repo)) orchestration

theorem resolvedRepository_routeResult (envelope : WebhookRequestEnvelope) :
    resolvedRepository input (routeResult host input.request envelope) =
      targetRepository input envelope := by
  have hroute : (routeResult host input.request envelope).route_plan =
      some (routeOf host input envelope) := rfl
  rw [resolvedRepository, hroute, Option.bind_some, routeOf, dispatch_routeInput,
    dispatch_repository]
  rfl

theorem routeResult_accepted (envelope : WebhookRequestEnvelope) :
    (routeResult host input.request envelope).accepted =
      !(routeOf host input envelope).decision.denies := rfl

theorem routeResult_route_plan (envelope : WebhookRequestEnvelope) :
    (routeResult host input.request envelope).route_plan =
      some (routeOf host input envelope) := rfl

variable {rt parse host input} in
/-- An accepted request with a repository is planned for, if the plans can be built. -/
theorem build_of_accepts {envelope : WebhookRequestEnvelope} {repo : String}
    (h : Accepts rt parse host input envelope)
    (hrepo : targetRepository input envelope = some repo) :
    buildActuatorRequestPipelinePlan rt parse host input =
      (orchestrateActuatorDryRun rt host (orchestrationInput host input envelope repo) >>=
        fun orchestration => .ok (plannedFor host input envelope repo orchestration)) := by
  have hrun := handleWebhookRequest_verified host h.1
  have haccepted := routeResult_accepted host input envelope
  rw [h.2] at haccepted
  have hroute := routeResult_route_plan host input envelope
  have hresolved := resolvedRepository_routeResult host input envelope
  rw [hrepo] at hresolved
  unfold buildActuatorRequestPipelinePlan
  simp only [hrun, haccepted, hroute, hresolved]
  rfl

variable {rt parse host input} in
/-- Any other request is denied. -/
theorem build_of_not_accepts
    (h : ∀ envelope repo, Accepts rt parse host input envelope →
      targetRepository input envelope ≠ some repo) :
    buildActuatorRequestPipelinePlan rt parse host input =
      .ok (denied (handleWebhookRequest rt parse host input.request)) := by
  unfold buildActuatorRequestPipelinePlan
  rcases handleWebhookRequest_cases rt parse host input.request with
    ⟨envelope, hv, hrun⟩ | ⟨_, status, reasons, hrun⟩
  · have haccepted := routeResult_accepted host input envelope
    have hroute := routeResult_route_plan host input envelope
    have hresolved := resolvedRepository_routeResult host input envelope
    cases hd : (routeOf host input envelope).decision.denies with
    | true =>
        rw [hd] at haccepted
        simp only [hrun, haccepted]
        rfl
    | false =>
        rw [hd] at haccepted
        have hnone : targetRepository input envelope = none :=
          Option.eq_none_iff_forall_ne_some.mpr (fun repo => h envelope repo ⟨hv, hd⟩)
        rw [hnone] at hresolved
        simp only [hrun, haccepted, hroute, hresolved]
        rfl
  · simp only [hrun]
    rfl

/-- A pipeline plan is a denial or the plan for an accepted request. -/
theorem build_cases {plan : ActuatorRequestPipelinePlan}
    (h : buildActuatorRequestPipelinePlan rt parse host input = .ok plan) :
    (∃ envelope repo orchestration, Accepts rt parse host input envelope ∧
      targetRepository input envelope = some repo ∧
      orchestrateActuatorDryRun rt host (orchestrationInput host input envelope repo) =
        .ok orchestration ∧ plan = plannedFor host input envelope repo orchestration) ∨
    plan = denied (handleWebhookRequest rt parse host input.request) := by
  by_cases hall : ∀ envelope repo, Accepts rt parse host input envelope →
      targetRepository input envelope ≠ some repo
  · rw [build_of_not_accepts hall] at h
    exact Or.inr (Except.ok.inj h).symm
  · simp only [not_forall, not_not] at hall
    obtain ⟨envelope, repo, ha, hrepo⟩ := hall
    rw [build_of_accepts ha hrepo] at h
    obtain ⟨orchestration, ho, h⟩ := bind_eq_ok.mp h
    exact Or.inl ⟨envelope, repo, orchestration, ha, hrepo, ho, (Except.ok.inj h).symm⟩

/-- A route that is not denied acknowledges a ping or carries the commit of its event. -/
theorem routeOf_cases {envelope : WebhookRequestEnvelope}
    (h : (routeOf host input envelope).decision.denies = false) :
    dispatchStopped (input.request.env.getD host.env) = false ∧
      ((envelope.event = "ping" ∧ (routeOf host input envelope).decision = .acknowledgeOnly) ∨
      (envelope.event ≠ "ping" ∧ ∃ sha, Dispatched envelope.payload sha envelope.event
          (routeOf host input envelope).decision ∧
        (routeOf host input envelope).head_sha = some sha)) := by
  rw [routeOf, dispatch_routeInput, dispatchWebhookRoute] at h ⊢
  cases hs : dispatchStopped (input.request.env.getD host.env) with
  | true =>
      have hdenies : WebhookRouteDecision.denyEmergencyStop.denies = true := by decide
      simp only [hs, if_true] at h
      cases hdenies.symm.trans h
  | false =>
      simp only [hs, Bool.false_eq_true, if_false] at h ⊢
      refine ⟨trivial, ?_⟩
      rcases routeEvent_cases ⟨envelope.event, envelope.delivery, envelope.payload,
          input.request.env⟩ with hping | ⟨hne, _, sha, _, hd, hsha⟩ | ⟨_, hdenies, _⟩
      · exact Or.inl hping
      · exact Or.inr ⟨hne, sha, hd, hsha⟩
      · cases hdenies.symm.trans h

theorem routeOf_ping {envelope : WebhookRequestEnvelope} (he : envelope.event = "ping")
    (hs : dispatchStopped (input.request.env.getD host.env) = false) :
    (routeOf host input envelope).decision = .acknowledgeOnly := by
  rw [routeOf, dispatch_routeInput, dispatchWebhookRoute]
  simp only [hs, Bool.false_eq_true, if_false]
  rw [routeEvent, if_pos he]
  rfl

/-! ## Commits -/

/-- The plan is for a dispatched event and for the commit the signed payload carries. -/
def ForDispatchedCommit (plan : ActuatorRequestPipelinePlan) : Prop :=
  ∃ route envelope orchestration sha, plan.webhook.route_plan = some route ∧
    plan.webhook.envelope = some envelope ∧
    parse input.request.body = .ok envelope.payload ∧
    plan.actuator_orchestration = some orchestration ∧
    Dispatched envelope.payload sha envelope.event route.decision ∧ sha ≠ "" ∧
    plan.head_sha = some sha ∧ orchestration.head_sha = sha ∧
    orchestration.check_run_plan.head_sha = sha

/-- A pipeline is planned for dispatched events only. -/
def PlansDispatchedCommits : Prop :=
  ∀ plan, buildActuatorRequestPipelinePlan rt parse host input = .ok plan →
    plan.decision = .pipelinePlanned → ForDispatchedCommit parse input plan

/-- A verified ping that no switch stops, with a repository to plan for and evidence that
can be written down. -/
def PingPlanned : Prop :=
  ∃ envelope, Verified rt parse input.request envelope ∧ envelope.event = "ping" ∧
    dispatchStopped (input.request.env.getD host.env) = false ∧
    targetRepository input envelope ≠ none ∧ Evidenced rt input.report

variable {rt parse host input} in
theorem PingPlanned.not_plansDispatchedCommits (h : PingPlanned rt parse host input) :
    ¬ PlansDispatchedCommits rt parse host input := by
  intro hplans
  obtain ⟨envelope, hv, he, hs, hrepo, hevidence⟩ := h
  obtain ⟨repo, hrepo⟩ := Option.ne_none_iff_exists'.mp hrepo
  have hroute := routeOf_ping host input he hs
  have haccepts : Accepts rt parse host input envelope := by
    refine ⟨hv, ?_⟩
    rw [hroute]
    decide
  obtain ⟨orchestration, ho⟩ := (exists_orchestrateActuatorDryRun_iff rt host
    (orchestrationInput host input envelope repo)).mpr hevidence
  have hbuild := build_of_accepts haccepts hrepo
  rw [ho] at hbuild
  obtain ⟨route, _, _, sha, hr, _, _, _, hd, _⟩ := hplans _ hbuild rfl
  obtain rfl : routeOf host input envelope = route := Option.some.inj hr
  rw [hroute] at hd
  rcases hd with ⟨_, _, hd⟩ | ⟨_, _, hd⟩ <;> cases hd

/-- Pings are the only events that are planned for without a commit. -/
theorem plansDispatchedCommits_iff :
    PlansDispatchedCommits rt parse host input ↔ ¬ PingPlanned rt parse host input := by
  constructor
  · exact fun hplans hping => hping.not_plansDispatchedCommits hplans
  · intro hnone plan hplan hplanned
    rcases build_cases rt parse host input hplan with
      ⟨envelope, repo, orchestration, ha, hrepo, ho, rfl⟩ | rfl
    · obtain ⟨hs, ⟨he, _⟩ | ⟨_, sha, hd, hsha⟩⟩ := routeOf_cases host input ha.2
      · have hevidence : Evidenced rt input.report :=
          (exists_orchestrateActuatorDryRun_iff rt host _).mp ⟨orchestration, ho⟩
        have htarget : targetRepository input envelope ≠ none := by simp [hrepo]
        exact absurd ⟨envelope, ha.1, he, hs, htarget, hevidence⟩ hnone
      · obtain ⟨hhead, hcheck⟩ := orchestrateActuatorDryRun_heads rt host ho
        have hgiven : (orchestrationInput host input envelope repo).headSha = sha := by
          rw [orchestrationInput, hsha]
          rfl
        rw [hgiven] at hhead hcheck
        exact ⟨_, envelope, orchestration, sha, rfl, rfl, ha.1.payload, rfl, hd, hd.sha_ne_empty,
          hsha, hhead, hcheck⟩
    · cases hplanned

end Planned

def pingBody : String :=
  "\x7b\"zen\":\"Keep it logically awesome.\",\"repository\":\x7b\"full_name\":\"Verifrax/ADMISSORIUM\"\x7d\x7d"

def pingPayload : Value :=
  .obj [("zen", .str "Keep it logically awesome."),
    ("repository", .obj [("full_name", .str "Verifrax/ADMISSORIUM")])]

/-- The HMAC of the ping under the key `secret`. -/
def pingDigest : String := "391a2920833b39abaad3207d2993fe367797c114afe852b0dfd845bdba06016f"

def cleanReport : AdmissibilityReport where
  run_id := "run-0"
  started_at := "1970-01-01T00:00:00.000Z"
  org := "Verifrax"
  mode := .audit
  accepted_graph_ref := ""
  candidate_graph_ref := ""
  verdict := .admissible
  red_count := 0
  yellow_count := 0
  green_count := 0
  quarantine_count := 0
  findings := []
  repair_plan_ref := ""

def pingInput : ActuatorRequestPipelineInput where
  request := {
    headers := [("X-GitHub-Event", .text "ping"), ("X-GitHub-Delivery", .text "1"),
      ("X-Hub-Signature-256", .text ("sha256=" ++ pingDigest))]
    body := pingBody
    secret := "secret" }
  report := cleanReport

theorem pingInput_not_plansDispatchedCommits :
    ¬ PlansDispatchedCommits (signingRuntime pingDigest) (parseOf pingBody pingPayload) shippedHost
      pingInput := by
  have hverified : Verified (signingRuntime pingDigest) (parseOf pingBody pingPayload)
      pingInput.request ⟨"ping", "1", pingPayload⟩ :=
    ⟨by decide +kernel, by decide +kernel, by decide +kernel, rfl⟩
  have hrunning : dispatchStopped (pingInput.request.env.getD shippedHost.env) = false := rfl
  have hrepository : targetRepository pingInput ⟨"ping", "1", pingPayload⟩ ≠ none := by
    decide +kernel
  have hevidence : Evidenced (signingRuntime pingDigest) pingInput.report :=
    fun _ hf => nomatch hf
  exact PingPlanned.not_plansDispatchedCommits
    ⟨_, hverified, rfl, hrunning, hrepository, hevidence⟩

section Authenticated
variable (rt : Runtime) (parse : JsonParse) (host : Host) (input : ActuatorRequestPipelineInput)

/-! ## Authenticity -/

/-- The first signature header holds the signature of the body, the body parses to the
payload, and neither switch is set in the environment of the request. -/
structure Authentic (payload : Value) : Prop where
  signature : ∃ name value,
    input.request.headers.find? (fun entry => rt.toLowerCase entry.1 = "x-hub-signature-256") =
      some (name, value) ∧
    value.first = some ("sha256=" ++ rt.hmacSha256 input.request.secret input.request.body)
  payload : parse input.request.body = .ok payload
  running : ∀ name ∈ ["ADMISSORIUM_WEBHOOK_DISPATCH_DISABLED", "ADMISSORIUM_WRITE_DISABLED"],
    ∀ value ∈ ["true", "1", "yes"], (input.request.env.getD host.env) name ≠ some value

/-- Something is planned. -/
def HasPlan (plan : ActuatorRequestPipelinePlan) : Prop :=
  plan.accepted = true ∨ plan.installation_token_plan.isSome = true ∨
    plan.actuator_orchestration.isSome = true

def IsDenial (plan : ActuatorRequestPipelinePlan) : Prop :=
  plan.decision = .pipelineDenied ∧ plan.installation_token_plan = none ∧
    plan.actuator_orchestration = none

theorem header_eq_some_iff (headers : Headers) {name : String} (ha : isAscii name = true)
    (hl : asciiLower name = name) (text : String) :
    header rt headers name = some text ↔ ∃ key value,
      headers.find? (fun entry => rt.toLowerCase entry.1 = name) = some (key, value) ∧
        value.first = some text := by
  have hname : rt.toLowerCase name = name := (rt.lower_ascii name ha).trans hl
  unfold header
  simp only [hname]
  cases headers.find? (fun entry => rt.toLowerCase entry.1 = name) with
  | none => simp
  | some entry =>
      obtain ⟨key, value⟩ := entry
      simp

theorem dispatchStopped_eq_false_iff (env : Env) :
    dispatchStopped env = false ↔
      ∀ name ∈ ["ADMISSORIUM_WEBHOOK_DISPATCH_DISABLED", "ADMISSORIUM_WRITE_DISABLED"],
        ∀ value ∈ ["true", "1", "yes"], env name ≠ some value := by
  simp [dispatchStopped, enabled, and_assoc]

theorem Accepts.authentic {envelope : WebhookRequestEnvelope}
    (h : Accepts rt parse host input envelope) :
    Authentic rt parse host input envelope.payload where
  signature := (header_eq_some_iff rt _ (by decide) (by decide) _).mp h.1.signature
  payload := h.1.payload
  running := (dispatchStopped_eq_false_iff _).mp (routeOf_cases host input h.2).1

/-- Whatever is planned is authentic and not stopped; otherwise the pipeline is denied,
and a request that is not authentic always gets its denial. -/
theorem planned_authentic :
    (∀ plan, buildActuatorRequestPipelinePlan rt parse host input = .ok plan →
      (HasPlan plan → ∃ envelope, plan.webhook.envelope = some envelope ∧
        Authentic rt parse host input envelope.payload) ∧
      (¬ HasPlan plan → IsDenial plan)) ∧
    ((∀ payload, ¬ Authentic rt parse host input payload) → ∃ plan,
      buildActuatorRequestPipelinePlan rt parse host input = .ok plan ∧ IsDenial plan) := by
  constructor
  · intro plan hplan
    rcases build_cases rt parse host input hplan with
      ⟨envelope, repo, orchestration, ha, _, _, rfl⟩ | rfl
    · have hhas : HasPlan (plannedFor host input envelope repo orchestration) := Or.inl rfl
      exact ⟨fun _ => ⟨envelope, rfl, ha.authentic⟩, fun hnot => absurd hhas hnot⟩
    · refine ⟨?_, fun _ => ⟨rfl, rfl, rfl⟩⟩
      intro hhas
      rcases hhas with h | h | h <;> cases h
  · intro hnone
    have hrefused : ∀ envelope repo, Accepts rt parse host input envelope →
        targetRepository input envelope ≠ some repo :=
      fun envelope _ ha _ => hnone envelope.payload ha.authentic
    exact ⟨_, build_of_not_accepts hrefused, rfl, rfl, rfl⟩

end Authenticated

end Admissorium.App.RequestPipeline
