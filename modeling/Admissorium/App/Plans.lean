import Admissorium.App.Permissions
import Admissorium.JavaScript.Json
import Admissorium.Reports

/-!
# The three dry-run plans

`app/check-run-plan`, `app/projection-repair-pr-plan` and `app/quarantine-issue-plan`
turn a report into what a writer would send. Only the check-run plan asks for a write
decision and carries it.
-/
namespace Admissorium.App.Plans
set_option autoImplicit false

open JavaScript RegExp Policies Permissions Reports

/-- `lines.join("\n")`. -/
def joinLines (lines : List String) : String := "\n".intercalate lines

def boolText (b : Bool) : String := if b then "true" else "false"

/-! ## Check runs -/

structure CheckRunPlanInput where
  report : AdmissibilityReport
  headSha : String
  repositoryFullName : String
  detailsUrl : Option String := none
  env : Option Env := none
  permissionPolicy : Option PermissionPolicy := none
  protectedPathsPolicy : Option ProtectedPathsPolicy := none

/-- `dry_run` is built `true`; a caller that executes the plan switches it off. -/
structure CheckRunPlan where
  dry_run : Bool
  write_behavior : String
  name : String
  repository : String
  head_sha : String
  status : String
  conclusion : CheckConclusion
  title : String
  summary : String
  text : String
  merge_verdict : MergeVerdictArtifact
  permission_decision : WriteDecision
  details_url : Option String

def titleFor (artifact : MergeVerdictArtifact) : String :=
  match artifact.verdict with
  | .pass => "ADMISSORIUM admissibility passed"
  | .blockedByConstitutionalDrift => "ADMISSORIUM blocked inadmissible materialization"
  | .quarantined => "ADMISSORIUM quarantined materialization"
  | .requiresGovernanceReview => "ADMISSORIUM requires governance review"
  | .passWithProjectionRepair => "ADMISSORIUM projection repair required"

def summaryFor (rt : Runtime) (report : AdmissibilityReport) (artifact : MergeVerdictArtifact) :
    String :=
  joinLines [
    "Admissibility verdict: " ++ report.verdict.text,
    "Merge verdict: " ++ artifact.verdict.text,
    "RED: " ++ rt.numberToString report.red_count,
    "YELLOW: " ++ rt.numberToString report.yellow_count,
    "QUARANTINED: " ++ rt.numberToString report.quarantine_count,
    "Merge allowed: " ++ boolText artifact.merge_allowed]

def textFor (rt : Runtime) (report : AdmissibilityReport) (artifact : MergeVerdictArtifact) :
    String :=
  let findingLines :=
    if report.findings.isEmpty then ["No findings."]
    else report.findings.map (fun finding =>
      "- " ++ finding.severity.text ++ ": " ++ finding.finding_id ++ " — " ++
        finding.recommended_action)
  joinLines ([
    "ADMISSORIUM does not decide truth.",
    "ADMISSORIUM enforces admissibility of materialized surfaces against the accepted VERIFRAX object graph.",
    "",
    "## Counts",
    "",
    "- RED: " ++ rt.numberToString report.red_count,
    "- YELLOW: " ++ rt.numberToString report.yellow_count,
    "- GREEN: " ++ rt.numberToString report.green_count,
    "- QUARANTINED: " ++ rt.numberToString report.quarantine_count,
    "",
    "## Merge verdict",
    "",
    "- verdict: " ++ artifact.verdict.text,
    "- merge_allowed: " ++ boolText artifact.merge_allowed,
    "- check_conclusion: " ++ artifact.check_conclusion.text,
    "- reason: " ++ artifact.reason,
    "",
    "## Findings",
    ""] ++ findingLines)

/-- The question the check-run plan asks of `decideWrite`. -/
def checkRunDecisionInput (host : Host) (input : CheckRunPlanInput) : DecideWriteInput where
  mode := some "block"
  writeClass := some "CHECK_RUN"
  permissionPolicy := some (input.permissionPolicy.getD (loadPermissionPolicy host).asPolicy)
  protectedPathsPolicy :=
    some (input.protectedPathsPolicy.getD (loadProtectedPathsPolicy host).asPolicy)
  env := input.env

def buildCheckRunPlan (rt : Runtime) (host : Host) (input : CheckRunPlanInput) :
    Except JsError CheckRunPlan := do
  let mergeVerdict := buildMergeVerdictArtifact input.report
  let permissionDecision ← decideWrite rt host (checkRunDecisionInput host input)
  return {
    dry_run := true
    write_behavior := "NONE"
    name := "admissorium-admissibility"
    repository := input.repositoryFullName
    head_sha := input.headSha
    status := "completed"
    conclusion := mergeVerdict.check_conclusion
    title := titleFor mergeVerdict
    summary := summaryFor rt input.report mergeVerdict
    text := textFor rt input.report mergeVerdict
    merge_verdict := mergeVerdict
    permission_decision := permissionDecision
    details_url := orElseText input.detailsUrl none }

/-! ## Projection repairs -/

structure ProjectionRepairPrPlanInput where
  report : AdmissibilityReport
  repositoryFullName : String
  baseBranch : Option String := none
  branchPrefix : Option String := none
  labels : Option (List String) := none

/-- What has no JSON text stays `undefined`. -/
structure ProjectionRepairPrPlanChange where
  finding_id : String
  repo : String
  surface : String
  invariant : String
  expected : Option String
  observed : Option String
  recommended_action : String
  deriving DecidableEq, Repr

structure ProjectionRepairPrPlan where
  dry_run : Bool
  write_behavior : String
  required : Bool
  repository : String
  base_branch : String
  head_branch : String
  title : String
  body : String
  labels : List String
  change_count : Nat
  blocked_count : Nat
  changes : List ProjectionRepairPrPlanChange
  blocked_findings : List ProjectionRepairPrPlanChange
  run_id : String
  deriving DecidableEq, Repr

def protectedSurfacePrefixes : List String :=
  ["law/", "freeze/", "epochs/current/", "current/", "authorities/current/", "receipts/current/",
    "verification/results/current/", "recognitions/current/", "claims/current/",
    "continuity/current/", "transfer/current/"]

/-- `[^a-z0-9]+` and `^-+|-+$`. -/
def slugGap : RegExp := plus (.compl (.union (.range 'a' 'z') (.range '0' '9')))

def slugEdge : RegExp :=
  alt (seq (assert .inputStart) (plus (.char '-'))) (seq (plus (.char '-')) (assert .inputEnd))

def slug (rt : Runtime) (value : String) : String :=
  let dashed := slugGap.replaceAll "-" (rt.toLowerCase value)
  textOr (some (String.ofList ((slugEdge.replaceAll "" dashed).toList.take 64))) "projection-repair"

/-- `prefix.slice(0, -1)` or anything below it. -/
def isProtectedSurface (surface : String) : Bool :=
  protectedSurfacePrefixes.any (fun head =>
    surface = String.ofList head.toList.dropLast || Text.startsWith surface head)

def isProjectionRepairFinding (finding : Finding) : Bool :=
  finding.severity = .yellow && finding.autofix_allowed

def stringifyEvidence (rt : Runtime) : Value → Option String
  | .str s => some s
  | v => Json.stringify rt v

def toChange (rt : Runtime) (finding : Finding) : ProjectionRepairPrPlanChange where
  finding_id := finding.finding_id
  repo := finding.repo
  surface := finding.surface
  invariant := finding.invariant
  expected := stringifyEvidence rt finding.expected
  observed := stringifyEvidence rt finding.observed
  recommended_action := finding.recommended_action

def renderChange (change : ProjectionRepairPrPlanChange) : String :=
  joinLines [
    "- finding_id: " ++ change.finding_id,
    "  repo: " ++ change.repo,
    "  surface: " ++ change.surface,
    "  invariant: " ++ change.invariant,
    "  expected: " ++ change.expected.getD "undefined",
    "  observed: " ++ change.observed.getD "undefined",
    "  recommended_action: " ++ change.recommended_action]

def renderChanges (changes : List ProjectionRepairPrPlanChange) : String :=
  if changes.isEmpty then "None." else "\n\n".intercalate (changes.map renderChange)

def buildProjectionRepairPrPlan (rt : Runtime) (input : ProjectionRepairPrPlanInput) :
    ProjectionRepairPrPlan :=
  let report := input.report
  let projectionRepairFindings := report.findings.filter isProjectionRepairFinding
  let changes := (projectionRepairFindings.filter
    (fun finding => !isProtectedSurface finding.surface)).map (toChange rt)
  let blockedFindings := (projectionRepairFindings.filter
    (fun finding => isProtectedSurface finding.surface)).map (toChange rt)
  let required : Bool := changes.length > 0
  { dry_run := true
    write_behavior := "NONE"
    required
    repository := input.repositoryFullName
    base_branch := input.baseBranch.getD "main"
    head_branch := input.branchPrefix.getD "admissorium/projection-repair" ++ "-" ++
      slug rt report.run_id
    title :=
      if required then "ADMISSORIUM projection repair: " ++ report.run_id
      else "ADMISSORIUM projection repair not required: " ++ report.run_id
    body := joinLines [
      "ADMISSORIUM does not decide truth.",
      "ADMISSORIUM enforces admissibility of materialized surfaces against the accepted VERIFRAX object graph.",
      "",
      "## Dry-run boundary",
      "",
      "This is a deterministic projection repair pull request plan.",
      "No GitHub pull request is created by this layer.",
      "No branch is created.",
      "No file is mutated.",
      "No truth object is rewritten.",
      "",
      "## Run",
      "",
      "- run_id: " ++ report.run_id,
      "- started_at: " ++ report.started_at,
      "- repository: " ++ input.repositoryFullName,
      "- admissibility_verdict: " ++ report.verdict.text,
      "- red_count: " ++ rt.numberToString report.red_count,
      "- yellow_count: " ++ rt.numberToString report.yellow_count,
      "",
      "## Planned projection repairs",
      "",
      renderChanges changes,
      "",
      "## Blocked protected-surface findings",
      "",
      renderChanges blockedFindings]
    labels := input.labels.getD ["admissorium", "projection-repair"]
    change_count := changes.length
    blocked_count := blockedFindings.length
    changes
    blocked_findings := blockedFindings
    run_id := report.run_id }

/-! ## Quarantine issues -/

structure QuarantineIssuePlanInput where
  report : AdmissibilityReport
  repositoryFullName : String
  labels : Option (List String) := none

structure QuarantineIssuePlan where
  dry_run : Bool
  write_behavior : String
  required : Bool
  repository : String
  title : String
  body : String
  labels : List String
  finding_count : Nat
  run_id : String
  deriving DecidableEq, Repr

/-- The evidence is written as text, which some objects do not have. -/
def findingLine (rt : Runtime) (finding : Finding) : Except JsError String := do
  return joinLines [
    "- finding_id: " ++ finding.finding_id,
    "  severity: " ++ finding.severity.text,
    "  repo: " ++ finding.repo,
    "  surface: " ++ finding.surface,
    "  invariant: " ++ finding.invariant,
    "  expected: " ++ (← finding.expected.toText rt),
    "  observed: " ++ (← finding.observed.toText rt),
    "  source_of_truth: " ++ finding.source_of_truth,
    "  autofix_allowed: " ++ boolText finding.autofix_allowed,
    "  recommended_action: " ++ finding.recommended_action]

def quarantineRelevantFindings (rt : Runtime) (report : AdmissibilityReport) : List Finding :=
  if report.quarantine_count > 0 then report.findings
  else report.findings.filter (fun finding =>
    Text.includes (rt.toLowerCase finding.finding_id) "quarantine" ||
      Text.includes (rt.toLowerCase finding.recommended_action) "quarantine")

def quarantineRequired (rt : Runtime) (report : AdmissibilityReport) : Bool :=
  report.quarantine_count > 0 || (quarantineRelevantFindings rt report).length > 0

def buildQuarantineIssuePlan (rt : Runtime) (input : QuarantineIssuePlanInput) :
    Except JsError QuarantineIssuePlan := do
  let report := input.report
  let findings := quarantineRelevantFindings rt report
  let required := quarantineRequired rt report
  let lines ← findings.mapM (findingLine rt)
  return {
    dry_run := true
    write_behavior := "NONE"
    required
    repository := input.repositoryFullName
    title :=
      if required then "ADMISSORIUM quarantine review required: " ++ report.run_id
      else "ADMISSORIUM quarantine review not required: " ++ report.run_id
    body := joinLines [
      "ADMISSORIUM does not decide truth.",
      "ADMISSORIUM enforces admissibility of materialized surfaces against the accepted VERIFRAX object graph.",
      "",
      "## Dry-run boundary",
      "",
      "This is a deterministic quarantine issue plan.",
      "No GitHub issue is created by this layer.",
      "No branch is created.",
      "No file is mutated.",
      "No truth object is rewritten.",
      "",
      "## Run",
      "",
      "- run_id: " ++ report.run_id,
      "- started_at: " ++ report.started_at,
      "- repository: " ++ input.repositoryFullName,
      "- admissibility_verdict: " ++ report.verdict.text,
      "- red_count: " ++ rt.numberToString report.red_count,
      "- yellow_count: " ++ rt.numberToString report.yellow_count,
      "- quarantine_count: " ++ rt.numberToString report.quarantine_count,
      "",
      "## Quarantine findings",
      "",
      if findings.isEmpty then "None." else "\n\n".intercalate lines]
    labels := input.labels.getD ["admissorium", "quarantine", "governance-review"]
    finding_count := findings.length
    run_id := report.run_id }

end Admissorium.App.Plans
