import Admissorium.JavaScript.Values

/-!
# Findings, reports and merge verdicts

The report every planner is handed, and the merge verdict `reports/merge-verdict`
draws from it.
-/
namespace Admissorium.Reports
set_option autoImplicit false

open JavaScript

inductive Severity where
  | red
  | yellow
  | green
  deriving DecidableEq, Repr

def Severity.text : Severity → String
  | red => "RED"
  | yellow => "YELLOW"
  | green => "GREEN"

inductive AdmissibilityVerdict where
  | admissible
  | admissibleAsProjectionRepair
  | requiresAcceptanceAct
  | inadmissible
  | quarantined
  deriving DecidableEq, Repr

def AdmissibilityVerdict.text : AdmissibilityVerdict → String
  | admissible => "ADMISSIBLE"
  | admissibleAsProjectionRepair => "ADMISSIBLE_AS_PROJECTION_REPAIR"
  | requiresAcceptanceAct => "REQUIRES_ACCEPTANCE_ACT"
  | inadmissible => "INADMISSIBLE"
  | quarantined => "QUARANTINED"

/-- `expected` and `observed` are of unknown type. -/
structure Finding where
  finding_id : String
  severity : Severity
  repo : String
  surface : String
  invariant : String
  expected : Value
  observed : Value
  source_of_truth : String
  autofix_allowed : Bool
  recommended_action : String

inductive ReportMode where
  | audit
  | repairProjection
  | candidateRegistry
  | block
  | quarantine
  deriving DecidableEq, Repr

def ReportMode.text : ReportMode → String
  | audit => "audit"
  | repairProjection => "repair-projection"
  | candidateRegistry => "candidate-registry"
  | block => "block"
  | quarantine => "quarantine"

def Finding.toValue (finding : Finding) : Value :=
  .obj [("finding_id", .str finding.finding_id), ("severity", .str finding.severity.text),
    ("repo", .str finding.repo), ("surface", .str finding.surface),
    ("invariant", .str finding.invariant), ("expected", finding.expected),
    ("observed", finding.observed), ("source_of_truth", .str finding.source_of_truth),
    ("autofix_allowed", .bool finding.autofix_allowed),
    ("recommended_action", .str finding.recommended_action)]

structure AdmissibilityReport where
  run_id : String
  started_at : String
  org : String
  mode : ReportMode
  accepted_graph_ref : String
  candidate_graph_ref : String
  verdict : AdmissibilityVerdict
  red_count : Number
  yellow_count : Number
  green_count : Number
  quarantine_count : Number
  findings : List Finding
  repair_plan_ref : String

def AdmissibilityReport.toValue (report : AdmissibilityReport) : Value :=
  .obj [("run_id", .str report.run_id), ("started_at", .str report.started_at),
    ("org", .str report.org), ("mode", .str report.mode.text),
    ("accepted_graph_ref", .str report.accepted_graph_ref),
    ("candidate_graph_ref", .str report.candidate_graph_ref),
    ("verdict", .str report.verdict.text), ("red_count", .num report.red_count),
    ("yellow_count", .num report.yellow_count), ("green_count", .num report.green_count),
    ("quarantine_count", .num report.quarantine_count),
    ("findings", .arr (report.findings.map Finding.toValue)),
    ("repair_plan_ref", .str report.repair_plan_ref)]

/-! ## The merge verdict -/

inductive MergeVerdict where
  | pass
  | passWithProjectionRepair
  | requiresGovernanceReview
  | blockedByConstitutionalDrift
  | quarantined
  deriving DecidableEq, Repr

def MergeVerdict.text : MergeVerdict → String
  | pass => "PASS"
  | passWithProjectionRepair => "PASS_WITH_PROJECTION_REPAIR"
  | requiresGovernanceReview => "REQUIRES_GOVERNANCE_REVIEW"
  | blockedByConstitutionalDrift => "BLOCKED_BY_CONSTITUTIONAL_DRIFT"
  | quarantined => "QUARANTINED"

inductive CheckConclusion where
  | success
  | failure
  | neutral
  deriving DecidableEq, Repr

def CheckConclusion.text : CheckConclusion → String
  | success => "success"
  | failure => "failure"
  | neutral => "neutral"

structure MergeVerdictArtifact where
  run_id : String
  verdict : MergeVerdict
  admissibility_verdict : AdmissibilityVerdict
  red_count : Number
  yellow_count : Number
  quarantine_count : Number
  merge_allowed : Bool
  check_conclusion : CheckConclusion
  reason : String

def mergeVerdictForReport (report : AdmissibilityReport) : MergeVerdict :=
  if report.verdict = .quarantined ∨ report.quarantine_count > 0 then .quarantined
  else if report.verdict = .inadmissible ∨ report.red_count > 0 then .blockedByConstitutionalDrift
  else if report.verdict = .requiresAcceptanceAct then .requiresGovernanceReview
  else if report.verdict = .admissibleAsProjectionRepair ∨ report.yellow_count > 0 then
    .passWithProjectionRepair
  else .pass

def checkConclusionForMergeVerdict : MergeVerdict → CheckConclusion
  | .pass | .passWithProjectionRepair => .success
  | .requiresGovernanceReview => .neutral
  | .blockedByConstitutionalDrift | .quarantined => .failure

def reasonForVerdict : MergeVerdict → String
  | .pass => "Candidate materialization is admissible against accepted graph."
  | .passWithProjectionRepair =>
      "Candidate materialization is admissible as projection repair and does not require truth mutation."
  | .requiresGovernanceReview =>
      "Candidate materialization changes registry or truth-adjacent material and requires governed review."
  | .blockedByConstitutionalDrift =>
      "Candidate materialization introduces or preserves constitutional drift."
  | .quarantined =>
      "Candidate materialization contains quarantined or quarantine-requiring surface."

def buildMergeVerdictArtifact (report : AdmissibilityReport) : MergeVerdictArtifact :=
  let verdict := mergeVerdictForReport report
  { run_id := report.run_id
    verdict
    admissibility_verdict := report.verdict
    red_count := report.red_count
    yellow_count := report.yellow_count
    quarantine_count := report.quarantine_count
    merge_allowed := verdict = .pass || verdict = .passWithProjectionRepair
    check_conclusion := checkConclusionForMergeVerdict verdict
    reason := reasonForVerdict verdict }

end Admissorium.Reports
