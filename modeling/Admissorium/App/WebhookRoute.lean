import Admissorium.Policies

/-!
# The webhook route dispatcher

`app/webhook-route-dispatcher` decides what a webhook event is routed to. The route is
a plan only; nothing is executed here.
-/
namespace Admissorium.App.WebhookRoute
set_option autoImplicit false

open JavaScript Policies

inductive WebhookRouteDecision where
  | acknowledgeOnly
  | dispatchPullRequestPlan
  | dispatchPushPlan
  | denyEmergencyStop
  | denyMissingRepository
  | denyMissingHeadSha
  | denyUnsupportedEvent
  deriving DecidableEq, Repr

def WebhookRouteDecision.text : WebhookRouteDecision → String
  | acknowledgeOnly => "ACKNOWLEDGE_ONLY"
  | dispatchPullRequestPlan => "DISPATCH_PULL_REQUEST_PLAN"
  | dispatchPushPlan => "DISPATCH_PUSH_PLAN"
  | denyEmergencyStop => "DENY_EMERGENCY_STOP"
  | denyMissingRepository => "DENY_MISSING_REPOSITORY"
  | denyMissingHeadSha => "DENY_MISSING_HEAD_SHA"
  | denyUnsupportedEvent => "DENY_UNSUPPORTED_EVENT"

inductive WebhookRouteTargetKind where
  | none
  | pullRequest
  | push
  deriving DecidableEq, Repr

structure WebhookRouteDispatcherInput where
  event : String
  delivery : String
  payload : Value
  env : Option Env := none

/-- `null` is `none`. -/
structure WebhookRoutePlan where
  decision : WebhookRouteDecision
  event : String
  delivery : String
  repository : Option String
  target_kind : WebhookRouteTargetKind
  head_sha : Option String
  ref : Option String
  action : Option String
  pull_request_number : Option Number
  write_behavior : String
  server_binding : String
  execution : String
  token_exchange : String
  truth_mutation : Bool
  registry_mutation : Bool
  planned_steps : List String
  reasons : List String
  deriving DecidableEq, Repr

def enabled (value : Option String) : Bool :=
  value = some "true" || value = some "1" || value = some "yes"

/-- A value that is a plain object. -/
def record : Value → Option Value
  | .obj fields => some (.obj fields)
  | _ => none

def text : Value → Option String
  | .str s => if s.length > 0 then some s else none
  | _ => none

def integer : Value → Option Number
  | .num q => if q.isInt then some q else none
  | _ => none

def repository (payload : Value) : Option String := do
  let payload ← record payload
  let repository ← record (payload.get "repository")
  text (repository.get "full_name")

def action (payload : Value) : Option String := do
  let payload ← record payload
  text (payload.get "action")

def pullRequestNumber (payload : Value) : Option Number := do
  let payload ← record payload
  let pullRequest ← record (payload.get "pull_request")
  integer (pullRequest.get "number")

def pullRequestHeadSha (payload : Value) : Option String := do
  let payload ← record payload
  let pullRequest ← record (payload.get "pull_request")
  let head ← record (pullRequest.get "head")
  text (head.get "sha")

def pushHeadSha (payload : Value) : Option String := do
  let payload ← record payload
  text (payload.get "after")

def payloadRef (payload : Value) : Option String := do
  let payload ← record payload
  text (payload.get "ref")

def basePlan (input : WebhookRouteDispatcherInput) (decision : WebhookRouteDecision) :
    WebhookRoutePlan where
  decision
  event := input.event
  delivery := input.delivery
  repository := repository input.payload
  target_kind := .none
  head_sha := none
  ref := none
  action := action input.payload
  pull_request_number := pullRequestNumber input.payload
  write_behavior := "NONE"
  server_binding := "NONE"
  execution := "PLAN_ONLY"
  token_exchange := "NOT_PERFORMED"
  truth_mutation := false
  registry_mutation := false
  planned_steps := []
  reasons := []

/-- The switches that stop the dispatcher. -/
def dispatchStopped (env : Env) : Bool :=
  enabled (env "ADMISSORIUM_WEBHOOK_DISPATCH_DISABLED") || enabled (env "ADMISSORIUM_WRITE_DISABLED")

/-- The route of an event, once no switch stops it. -/
def routeEvent (input : WebhookRouteDispatcherInput) : WebhookRoutePlan :=
  if input.event = "ping" then
    { basePlan input .acknowledgeOnly with
      reasons := ["GitHub ping event acknowledged without execution."] }
  else
    match repository input.payload with
    | none =>
        { basePlan input .denyMissingRepository with
          reasons := ["Webhook payload does not contain repository.full_name."] }
    | some repo =>
        if input.event = "pull_request" then
          match pullRequestHeadSha input.payload with
          | none =>
              { basePlan input .denyMissingHeadSha with
                repository := some repo
                target_kind := .pullRequest
                reasons := ["Pull request payload does not contain pull_request.head.sha."] }
          | some sha =>
              { basePlan input .dispatchPullRequestPlan with
                repository := some repo
                target_kind := .pullRequest
                head_sha := some sha
                planned_steps := [
                  "parse verified webhook envelope",
                  "build admissibility audit plan",
                  "build dry-run check-run plan",
                  "build projection-repair or quarantine plans only if report class requires them",
                  "return plans without server binding or repository writes"]
                reasons :=
                  ["Pull request event is routable to an admissibility execution plan."] }
        else if input.event = "push" then
          match pushHeadSha input.payload with
          | none =>
              { basePlan input .denyMissingHeadSha with
                repository := some repo
                target_kind := .push
                ref := payloadRef input.payload
                reasons := ["Push payload does not contain after commit sha."] }
          | some sha =>
              { basePlan input .dispatchPushPlan with
                repository := some repo
                target_kind := .push
                head_sha := some sha
                ref := payloadRef input.payload
                planned_steps := [
                  "parse verified webhook envelope",
                  "build admissibility audit plan for pushed ref",
                  "build dry-run check-run plan",
                  "return plans without server binding or repository writes"]
                reasons := ["Push event is routable to an admissibility execution plan."] }
        else
          { basePlan input .denyUnsupportedEvent with
            repository := some repo
            reasons := ["Unsupported webhook event: " ++ input.event] }

def dispatchWebhookRoute (host : Host) (input : WebhookRouteDispatcherInput) : WebhookRoutePlan :=
  let env := input.env.getD host.env
  if dispatchStopped env then
    { basePlan input .denyEmergencyStop with
      reasons := ["Emergency stop prevents webhook route dispatch."] }
  else routeEvent input

theorem routeEvent_not_stopped (input : WebhookRouteDispatcherInput) :
    (routeEvent input).decision ≠ .denyEmergencyStop := by
  unfold routeEvent
  split
  · simp [basePlan]
  split
  · simp [basePlan]
  split
  · split <;> simp [basePlan]
  split
  · split <;> simp [basePlan]
  · simp [basePlan]

/-- A route is denied by the emergency stop exactly when a switch is set. -/
theorem dispatch_stopped_iff (host : Host) (input : WebhookRouteDispatcherInput) :
    (dispatchWebhookRoute host input).decision = .denyEmergencyStop ↔
      dispatchStopped (input.env.getD host.env) = true := by
  unfold dispatchWebhookRoute
  by_cases hs : dispatchStopped (input.env.getD host.env) = true
  · simp [hs, basePlan]
  · simp [hs, routeEvent_not_stopped]

/-! ## What a route carries -/

/-- `decision.startsWith("DENY_")`. -/
def WebhookRouteDecision.denies (decision : WebhookRouteDecision) : Bool :=
  Text.startsWith decision.text "DENY_"

/-- The decision dispatches the event, and the payload carries this commit for it. -/
def Dispatched (payload : Value) (sha event : String) (decision : WebhookRouteDecision) : Prop :=
  (event = "pull_request" ∧ pullRequestHeadSha payload = some sha ∧
      decision = .dispatchPullRequestPlan) ∨
    (event = "push" ∧ pushHeadSha payload = some sha ∧ decision = .dispatchPushPlan)

theorem text_ne_empty {v : Value} {s : String} (h : text v = some s) : s ≠ "" := by
  rintro rfl
  cases v with
  | str t =>
      rw [text] at h
      by_cases ht : t.length > 0
      · rw [if_pos ht] at h
        cases h
        cases ht
      · rw [if_neg ht] at h
        cases h
  | _ => cases h

theorem pushHeadSha_ne_empty {payload : Value} {sha : String}
    (h : pushHeadSha payload = some sha) : sha ≠ "" := by
  obtain ⟨_, _, h⟩ := Option.bind_eq_some_iff.mp h
  exact text_ne_empty h

theorem pullRequestHeadSha_ne_empty {payload : Value} {sha : String}
    (h : pullRequestHeadSha payload = some sha) : sha ≠ "" := by
  obtain ⟨_, _, h⟩ := Option.bind_eq_some_iff.mp h
  obtain ⟨_, _, h⟩ := Option.bind_eq_some_iff.mp h
  obtain ⟨_, _, h⟩ := Option.bind_eq_some_iff.mp h
  exact text_ne_empty h

/-- A dispatched event carries a commit. -/
theorem Dispatched.sha_ne_empty {payload : Value} {sha event : String}
    {decision : WebhookRouteDecision} (h : Dispatched payload sha event decision) : sha ≠ "" := by
  rcases h with ⟨_, h, _⟩ | ⟨_, h, _⟩
  · exact pullRequestHeadSha_ne_empty h
  · exact pushHeadSha_ne_empty h

/-- An event is acknowledged, dispatched with the commit it carries, or denied. -/
theorem routeEvent_cases (input : WebhookRouteDispatcherInput) :
    (input.event = "ping" ∧ (routeEvent input).decision = .acknowledgeOnly) ∨
    (input.event ≠ "ping" ∧ ∃ repo sha, repository input.payload = some repo ∧
      Dispatched input.payload sha input.event (routeEvent input).decision ∧
      (routeEvent input).head_sha = some sha) ∨
    (input.event ≠ "ping" ∧ (routeEvent input).decision.denies = true ∧
      (∀ repo sha decision, repository input.payload = some repo →
        ¬ Dispatched input.payload sha input.event decision)) := by
  have hrepository : WebhookRouteDecision.denyMissingRepository.denies = true := by decide
  have hhead : WebhookRouteDecision.denyMissingHeadSha.denies = true := by decide
  have hevent : WebhookRouteDecision.denyUnsupportedEvent.denies = true := by decide
  unfold routeEvent
  by_cases hping : input.event = "ping"
  · rw [if_pos hping]
    exact Or.inl ⟨hping, rfl⟩
  rw [if_neg hping]
  apply Or.inr
  cases hrepo : repository input.payload with
  | none => exact Or.inr ⟨hping, hrepository, fun _ _ _ h => nomatch h⟩
  | some repo =>
      by_cases hpull : input.event = "pull_request"
      · have hpush : input.event ≠ "push" := by
          rw [hpull]
          decide
        simp only [if_pos hpull]
        cases hsha : pullRequestHeadSha input.payload with
        | none =>
            refine Or.inr ⟨hping, hhead, fun _ _ _ _ hd => ?_⟩
            rcases hd with ⟨_, hd, _⟩ | ⟨he, _, _⟩
            · cases hsha.symm.trans hd
            · exact hpush he
        | some sha => exact Or.inl ⟨hping, repo, sha, rfl, Or.inl ⟨hpull, hsha, rfl⟩, rfl⟩
      simp only [if_neg hpull]
      by_cases hpush : input.event = "push"
      · simp only [if_pos hpush]
        cases hsha : pushHeadSha input.payload with
        | none =>
            refine Or.inr ⟨hping, hhead, fun _ _ _ _ hd => ?_⟩
            rcases hd with ⟨he, _, _⟩ | ⟨_, hd, _⟩
            · exact hpull he
            · cases hsha.symm.trans hd
        | some sha => exact Or.inl ⟨hping, repo, sha, rfl, Or.inr ⟨hpush, hsha, rfl⟩, rfl⟩
      simp only [if_neg hpush]
      refine Or.inr ⟨hping, hevent, fun _ _ _ _ hd => ?_⟩
      rcases hd with ⟨he, _, _⟩ | ⟨he, _, _⟩
      · exact hpull he
      · exact hpush he

theorem Dispatched.dispatches {payload : Value} {sha event : String}
    {decision : WebhookRouteDecision} (h : Dispatched payload sha event decision) :
    event ≠ "ping" ∧ (decision = .dispatchPullRequestPlan ∨ decision = .dispatchPushPlan) := by
  rcases h with ⟨rfl, _, hd⟩ | ⟨rfl, _, hd⟩
  · exact ⟨by decide, Or.inl hd⟩
  · exact ⟨by decide, Or.inr hd⟩

/-- A route dispatches when no switch stops it and the payload names a repository and
carries the commit of its event. -/
theorem dispatch_dispatches_iff (host : Host) (input : WebhookRouteDispatcherInput) :
    ((dispatchWebhookRoute host input).decision = .dispatchPullRequestPlan ∨
        (dispatchWebhookRoute host input).decision = .dispatchPushPlan) ↔
      dispatchStopped (input.env.getD host.env) = false ∧ ∃ repo sha decision,
        repository input.payload = some repo ∧
          Dispatched input.payload sha input.event decision := by
  have hcommit : WebhookRouteDecision.dispatchPullRequestPlan.denies = false ∧
      WebhookRouteDecision.dispatchPushPlan.denies = false := by decide
  unfold dispatchWebhookRoute
  cases hs : dispatchStopped (input.env.getD host.env) with
  | true => simp [hs, basePlan]
  | false =>
      simp only [hs, Bool.false_eq_true, if_false, true_and]
      rcases routeEvent_cases input with ⟨hping, hack⟩ | ⟨_, repo, sha, hrepo, hd, _⟩ |
          ⟨_, hdenies, hnone⟩
      · constructor
        · intro h
          rw [hack] at h
          rcases h with h | h <;> cases h
        · intro h
          obtain ⟨_, _, _, _, hd⟩ := h
          exact absurd hping hd.dispatches.1
      · exact ⟨fun _ => ⟨repo, sha, _, hrepo, hd⟩, fun _ => hd.dispatches.2⟩
      · constructor
        · intro h
          rcases h with h | h
          · rw [h, hcommit.1] at hdenies
            cases hdenies
          · rw [h, hcommit.2] at hdenies
            cases hdenies
        · intro h
          obtain ⟨repo, sha, decision, hrepo, hd⟩ := h
          exact absurd hd (hnone repo sha decision hrepo)

theorem routeEvent_repository (input : WebhookRouteDispatcherInput) :
    (routeEvent input).repository = repository input.payload := by
  unfold routeEvent
  split
  · rfl
  split
  · rfl
  · rename_i repo hrepo
    split
    · split <;> simp [hrepo]
    split
    · split <;> simp [hrepo]
    · simp [hrepo]

theorem dispatch_repository (host : Host) (input : WebhookRouteDispatcherInput) :
    (dispatchWebhookRoute host input).repository = repository input.payload := by
  by_cases hs : dispatchStopped (input.env.getD host.env) = true
  · simp [dispatchWebhookRoute, hs, basePlan]
  · simp [dispatchWebhookRoute, hs, routeEvent_repository]

end Admissorium.App.WebhookRoute
