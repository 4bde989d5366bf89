import Admissorium.App.Plans
import Admissorium.GuardedCalls
import Admissorium.JavaScript.Text

/-!
# The guarded writer adapters

`app/check-run-writer-adapter`, `app/projection-repair-pr-writer-adapter` and
`app/quarantine-issue-writer-adapter` are one guarded call each, behind three gates:
the dry run, the emergency stop, and a gate of the writer's own. The check-run
adapter's own gate is the permission decision its plan carries; the gate of the other
two is that the plan requires a write.
-/
namespace Admissorium.App.WriterAdapters
set_option autoImplicit false

open JavaScript Guarded Reports Permissions Plans

structure RepositoryName where
  owner : String
  repo : String
  deriving DecidableEq, Repr

def splitRepository (fullName : String) : Except JsError RepositoryName :=
  match Text.split fullName '/' with
  | [owner, repo] =>
      if owner = "" ∨ repo = "" then .error (.error ("Invalid repository full name: " ++ fullName))
      else .ok ⟨owner, repo⟩
  | _ => .error (.error ("Invalid repository full name: " ++ fullName))

/-- No `env` argument leaves the stop unread; the process environment is not consulted. -/
def writeDisabled (env : Option Env) : Bool :=
  (env.bind (fun env => env "ADMISSORIUM_WRITE_DISABLED")) = some "true"

/-- What the three adapters report; `ν` are the verdicts of the writer. -/
structure WriterResult (ν ρ σ : Type) where
  verdict : ν
  write_attempted : Bool
  write_performed : Bool
  reason : String
  request : ρ
  result : Option σ

/-- A gate that skips the write. -/
def skipGate {ν ρ σ : Type} (closed : Bool) (verdict : ν) (reason : String) (request : ρ) :
    Gate (WriterResult ν ρ σ) :=
  ⟨closed, ⟨verdict, false, false, reason, request, none⟩⟩

/-! ## The requests and their clients -/

structure CheckRunOutput where
  title : String
  summary : String
  text : String
  deriving DecidableEq, Repr

structure GitHubCheckRunCreateInput where
  owner : String
  repo : String
  name : String
  head_sha : String
  status : String
  conclusion : CheckConclusion
  output : CheckRunOutput
  details_url : Option String
  deriving DecidableEq, Repr

structure GitHubCheckRunCreateResult where
  id : Number
  html_url : Option String

structure GitHubPullRequestCreateInput where
  owner : String
  repo : String
  base : String
  head : String
  title : String
  body : String
  labels : List String
  deriving DecidableEq, Repr

structure GitHubIssueCreateInput where
  owner : String
  repo : String
  title : String
  body : String
  labels : List String
  deriving DecidableEq, Repr

/-- Pull requests and issues answer alike. -/
structure GitHubCreateResult where
  number : Number
  html_url : Option String

/-- A client may answer or throw. -/
abbrev Client (ρ σ : Type) := ρ → Except JsError σ

/-! ## Check runs -/

inductive CheckRunVerdict where
  | skippedDryRun
  | skippedWriteDisabled
  | skippedPermissionDenied
  | writtenCheckRun
  deriving DecidableEq, Repr

structure GuardedCheckRunWriterInput where
  plan : CheckRunPlan
  client : Client GitHubCheckRunCreateInput GitHubCheckRunCreateResult
  executeWrite : Bool
  env : Option Env := none

def checkRunRequest (plan : CheckRunPlan) : Except JsError GitHubCheckRunCreateInput := do
  let name ← splitRepository plan.repository
  return {
    owner := name.owner
    repo := name.repo
    name := plan.name
    head_sha := plan.head_sha
    status := plan.status
    conclusion := plan.conclusion
    output := ⟨plan.title, plan.summary, plan.text⟩
    details_url := orElseText plan.details_url none }

def writeGitHubCheckRunGuarded (input : GuardedCheckRunWriterInput) :
    Run JsError GitHubCheckRunCreateInput
      (WriterResult CheckRunVerdict GitHubCheckRunCreateInput GitHubCheckRunCreateResult) :=
  guardedCall (checkRunRequest input.plan)
    (fun request => [
      skipGate (!input.executeWrite || input.plan.dry_run) .skippedDryRun
        "Check-run writer adapter remained in dry-run mode." request,
      skipGate (writeDisabled input.env) .skippedWriteDisabled
        "ADMISSORIUM_WRITE_DISABLED=true blocks check-run write." request,
      skipGate (input.plan.permission_decision.decision ≠ .allow) .skippedPermissionDenied
        ("Permission policy blocked check-run write: " ++
          input.plan.permission_decision.decision.text) request])
    input.client
    (fun request result => ⟨.writtenCheckRun, true, true,
      "GitHub check-run write completed through guarded adapter.", request, some result⟩)

/-! ## Projection repairs -/

inductive ProjectionRepairPrVerdict where
  | skippedDryRun
  | skippedWriteDisabled
  | skippedNotRequired
  | writtenPullRequest
  deriving DecidableEq, Repr

structure GuardedProjectionRepairPrWriterInput where
  plan : ProjectionRepairPrPlan
  client : Client GitHubPullRequestCreateInput GitHubCreateResult
  executeWrite : Bool
  env : Option Env := none

def pullRequestRequest (plan : ProjectionRepairPrPlan) :
    Except JsError GitHubPullRequestCreateInput := do
  let name ← splitRepository plan.repository
  return {
    owner := name.owner
    repo := name.repo
    base := plan.base_branch
    head := plan.head_branch
    title := plan.title
    body := plan.body
    labels := plan.labels }

def writeProjectionRepairPrGuarded (input : GuardedProjectionRepairPrWriterInput) :
    Run JsError GitHubPullRequestCreateInput
      (WriterResult ProjectionRepairPrVerdict GitHubPullRequestCreateInput GitHubCreateResult) :=
  guardedCall (pullRequestRequest input.plan)
    (fun request => [
      skipGate (!input.executeWrite || input.plan.dry_run) .skippedDryRun
        "Projection repair pull request writer adapter remained in dry-run mode." request,
      skipGate (writeDisabled input.env) .skippedWriteDisabled
        "ADMISSORIUM_WRITE_DISABLED=true blocks projection repair pull request write." request,
      skipGate (!input.plan.required) .skippedNotRequired
        "Projection repair pull request plan does not require a pull request." request])
    input.client
    (fun request result => ⟨.writtenPullRequest, true, true,
      "GitHub projection repair pull request write completed through guarded adapter.", request,
      some result⟩)

/-! ## Quarantine issues -/

inductive QuarantineIssueVerdict where
  | skippedDryRun
  | skippedWriteDisabled
  | skippedNotRequired
  | writtenIssue
  deriving DecidableEq, Repr

structure GuardedQuarantineIssueWriterInput where
  plan : QuarantineIssuePlan
  client : Client GitHubIssueCreateInput GitHubCreateResult
  executeWrite : Bool
  env : Option Env := none

def issueRequest (plan : QuarantineIssuePlan) : Except JsError GitHubIssueCreateInput := do
  let name ← splitRepository plan.repository
  return {
    owner := name.owner
    repo := name.repo
    title := plan.title
    body := plan.body
    labels := plan.labels }

def writeQuarantineIssueGuarded (input : GuardedQuarantineIssueWriterInput) :
    Run JsError GitHubIssueCreateInput
      (WriterResult QuarantineIssueVerdict GitHubIssueCreateInput GitHubCreateResult) :=
  guardedCall (issueRequest input.plan)
    (fun request => [
      skipGate (!input.executeWrite || input.plan.dry_run) .skippedDryRun
        "Quarantine issue writer adapter remained in dry-run mode." request,
      skipGate (writeDisabled input.env) .skippedWriteDisabled
        "ADMISSORIUM_WRITE_DISABLED=true blocks quarantine issue write." request,
      skipGate (!input.plan.required) .skippedNotRequired
        "Quarantine issue plan does not require an issue." request])
    input.client
    (fun request result => ⟨.writtenIssue, true, true,
      "GitHub quarantine issue write completed through guarded adapter.", request, some result⟩)

/-! ## When a client is called -/

/-- A client hears of the write. -/
def Called {ρ α : Type} (run : Run JsError ρ α) : Prop := run.calls ≠ []

/-- Behind three gates, a client is called exactly when the request can be built and no
gate is closed. -/
theorem called_iff {ν ρ σ : Type} (prepared : Except JsError ρ) (a b c : Bool) (u v w : ν)
    (r s t : ρ → String) (client : Client ρ σ) (finish : ρ → σ → WriterResult ν ρ σ) :
    Called (guardedCall prepared (fun request => [skipGate a u (r request) request,
        skipGate b v (s request) request, skipGate c w (t request) request]) client finish) ↔
      (∃ request, prepared = .ok request) ∧ a = false ∧ b = false ∧ c = false := by
  rw [Called, Ne, calls_eq_nil_iff]
  simp only [Open, skipGate, List.forall_mem_cons, not_forall, not_not]
  constructor
  · intro h
    obtain ⟨request, hp, ha, hb, hc, _⟩ := h
    exact ⟨⟨request, hp⟩, ha, hb, hc⟩
  · intro h
    obtain ⟨⟨request, hp⟩, ha, hb, hc⟩ := h
    exact ⟨request, hp, ha, hb, hc, by simp⟩

/-- The repository can be addressed. -/
def Addressable (fullName : String) : Prop := ∃ name, splitRepository fullName = .ok name

theorem request_iff {ρ : Type} (fullName : String) (build : RepositoryName → ρ) :
    (∃ request, (do return build (← splitRepository fullName) : Except JsError ρ) = .ok request) ↔
      Addressable fullName := by
  cases h : splitRepository fullName with
  | error e =>
      simp only [Addressable, h, reduceCtorEq, exists_false, iff_false, not_exists]
      rintro request ⟨⟩
  | ok name => exact ⟨fun _ => ⟨name, h⟩, fun _ => ⟨build name, rfl⟩⟩

theorem checkRun_called_iff (input : GuardedCheckRunWriterInput) :
    Called (writeGitHubCheckRunGuarded input) ↔ Addressable input.plan.repository ∧
      (!input.executeWrite || input.plan.dry_run) = false ∧ writeDisabled input.env = false ∧
        input.plan.permission_decision.decision = .allow := by
  rw [writeGitHubCheckRunGuarded, called_iff, checkRunRequest, request_iff]
  simp

theorem pullRequest_called_iff (input : GuardedProjectionRepairPrWriterInput) :
    Called (writeProjectionRepairPrGuarded input) ↔ Addressable input.plan.repository ∧
      (!input.executeWrite || input.plan.dry_run) = false ∧ writeDisabled input.env = false ∧
        input.plan.required = true := by
  rw [writeProjectionRepairPrGuarded, called_iff, pullRequestRequest, request_iff]
  simp

theorem issue_called_iff (input : GuardedQuarantineIssueWriterInput) :
    Called (writeQuarantineIssueGuarded input) ↔ Addressable input.plan.repository ∧
      (!input.executeWrite || input.plan.dry_run) = false ∧ writeDisabled input.env = false ∧
        input.plan.required = true := by
  rw [writeQuarantineIssueGuarded, called_iff, issueRequest, request_iff]
  simp

end Admissorium.App.WriterAdapters
