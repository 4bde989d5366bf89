import Admissorium.App.RepairTargets
import Admissorium.App.WriteDecision
import Admissorium.App.WriterAdapters

/-!
# Plans and their writers

What lies between a report and a remote write. A check run is written only on the
decision its plan carries, which is the decision of an executed write as well. The
other two writers ask for no decision: they write what their plan requires, whatever
the policies say about it.
-/
namespace Admissorium.App.GuardedWrites
set_option autoImplicit false

open JavaScript Policies Permissions WriteDecision Reports Plans RepairTargets WriterAdapters
open Invariants.LicenseConsistency

section

/- A report, the repository it is about, the two policies and the environment, as given
to the planners, to the adapters and to the write decision alike. -/
variable (rt : Runtime) (host : Host) (report : AdmissibilityReport) (repository : String)
  (permissionPolicy : PermissionPolicy) (protectedPathsPolicy : ProtectedPathsPolicy)
  (env : Option Env)

/-- An executed write of a class, asked in a mode about the paths it changes. -/
def executedWrite (mode writeClass : String) (paths : List String) : DecideWriteInput where
  mode := some mode
  writeClass := some writeClass
  changedPaths := some paths
  executeWrite := some true
  permissionPolicy := some permissionPolicy
  protectedPathsPolicy := some protectedPathsPolicy
  env := env

def Permitted (mode writeClass : String) (paths : List String) : Prop :=
  ∃ d, decideWrite rt host (executedWrite permissionPolicy protectedPathsPolicy env mode writeClass
    paths) = .ok d ∧ d.decision = .allow

/-! ## The decisions the writers answer to -/

theorem executedWrite_emergency (mode writeClass : String) (paths : List String) :
    (executedWrite permissionPolicy protectedPathsPolicy env mode writeClass paths).emergency host =
      isWriteDisabled permissionPolicy (env.getD host.env) :=
  isWriteDisabled_asPolicy permissionPolicy (env.getD host.env)

theorem executedWrite_class (mode : String) {writeClass : String} (paths : List String)
    (ha : isAscii writeClass = true) (hu : asciiUpper writeClass = writeClass)
    (hne : writeClass ≠ "") :
    (executedWrite permissionPolicy protectedPathsPolicy env mode writeClass
      paths).normalizedWriteClass rt = writeClass := by
  simp only [DecideWriteInput.normalizedWriteClass, executedWrite, orElseText, if_neg hne,
    Option.getD_some]
  exact rt.toUpperCase_fixed ha hu

/-- The stop the policy names is not active. -/
def Running : Prop := isWriteDisabled permissionPolicy (env.getD host.env) = false

theorem permitted_repair_iff (paths : List String) :
    Permitted rt host permissionPolicy protectedPathsPolicy env "repair-projection"
        "PROJECTION_REPAIR_PR" paths ↔
      Running host permissionPolicy env ∧
        ∀ p ∈ paths, Spares (withProtectedPathDefaults protectedPathsPolicy) p := by
  have hclass : Text.includes ((executedWrite permissionPolicy protectedPathsPolicy env
      "repair-projection" "PROJECTION_REPAIR_PR" paths).normalizedWriteClass rt)
      "PROJECTION_REPAIR" = true := by
    rw [executedWrite_class _ _ _ _ _ _ (by decide) (by decide) (by decide)]
    decide +kernel
  have hname : DecideWriteInput.normalizedMode { mode := some "repair-projection" } =
      "projection_repair" := by decide +kernel
  have hmode : (executedWrite permissionPolicy protectedPathsPolicy env "repair-projection"
      "PROJECTION_REPAIR_PR" paths).normalizedMode = "projection_repair" := hname
  rw [Permitted, allow_iff, executedWrite_emergency, grant_repair_iff host hclass, hmode]
  apply and_congr_right
  intro _
  constructor
  · exact fun hg => hg.2.2
  · exact fun hp => ⟨by decide, Or.inr rfl, hp⟩

/-- The flag of the mode that quarantine issues are asked in. -/
def MayOpenQuarantineIssue : Prop :=
  selectMode (withPermissionDefaults permissionPolicy).modes "quarantine"
    "may_open_quarantine_issue" = some true

theorem permitted_issue_iff :
    Permitted rt host permissionPolicy protectedPathsPolicy env "quarantine" "QUARANTINE_ISSUE" [] ↔
      Running host permissionPolicy env ∧ MayOpenQuarantineIssue permissionPolicy := by
  have hclass : (executedWrite permissionPolicy protectedPathsPolicy env "quarantine"
      "QUARANTINE_ISSUE" []).normalizedWriteClass rt = "QUARANTINE_ISSUE" :=
    executedWrite_class _ _ _ _ _ _ (by decide) (by decide) (by decide)
  have hname : DecideWriteInput.normalizedMode { mode := some "quarantine" } = "quarantine" := by
    decide +kernel
  have hmode : (executedWrite permissionPolicy protectedPathsPolicy env "quarantine"
      "QUARANTINE_ISSUE" []).normalizedMode = "quarantine" := hname
  have hflags : (executedWrite permissionPolicy protectedPathsPolicy env "quarantine"
      "QUARANTINE_ISSUE" []).modePolicy host =
        selectMode (withPermissionDefaults permissionPolicy).modes "quarantine" := by
    rw [DecideWriteInput.modePolicy, hmode]
    rfl
  rw [Permitted, allow_iff, executedWrite_emergency, grant_quarantine_iff host hclass, hmode,
    hflags]
  apply and_congr_right
  intro _
  constructor
  · exact fun hg => hg.2.1
  · exact fun hf => ⟨by decide, hf, fun p hp => nomatch hp⟩

/-- The decision a check-run plan carries does not depend on the write being executed. -/
theorem permitted_checkRun {headSha : String} {detailsUrl : Option String} {plan : CheckRunPlan}
    (hplan : buildCheckRunPlan rt host ⟨report, headSha, repository, detailsUrl, env,
      some permissionPolicy, some protectedPathsPolicy⟩ = .ok plan)
    (ha : plan.permission_decision.decision = .allow) :
    Permitted rt host permissionPolicy protectedPathsPolicy env "block" "CHECK_RUN" [] := by
  rw [buildCheckRunPlan, bind_eq_ok] at hplan
  obtain ⟨d, hd, hplan⟩ := hplan
  cases hplan
  have hgrant := (allow_iff rt host _).mp ⟨d, hd, ha⟩
  rw [grant_iff] at hgrant
  rw [Permitted, allow_iff, grant_iff]
  exact hgrant

/-! ## The writers -/

variable (headSha : String) (detailsUrl baseBranch branchPrefix : Option String)
  (repairLabels issueLabels : Option (List String))
  (checkRunClient : Client GitHubCheckRunCreateInput GitHubCheckRunCreateResult)
  (pullRequestClient : Client GitHubPullRequestCreateInput GitHubCreateResult)
  (issueClient : Client GitHubIssueCreateInput GitHubCreateResult)

/-- No adapter, handed the executed plan of the report, calls its client without the
permission of an executed write of its class. -/
structure NoUnpermittedWrite : Prop where
  checkRun : ∀ plan, buildCheckRunPlan rt host ⟨report, headSha, repository, detailsUrl, env,
      some permissionPolicy, some protectedPathsPolicy⟩ = .ok plan →
    Called (writeGitHubCheckRunGuarded
      ⟨{ plan with dry_run := false }, checkRunClient, true, env⟩) →
    Permitted rt host permissionPolicy protectedPathsPolicy env "block" "CHECK_RUN" []
  pullRequest :
    let plan := repairPlan rt report repository baseBranch branchPrefix repairLabels
    Called (writeProjectionRepairPrGuarded
      ⟨{ plan with dry_run := false }, pullRequestClient, true, env⟩) →
    Permitted rt host permissionPolicy protectedPathsPolicy env "repair-projection"
      "PROJECTION_REPAIR_PR" (plan.changes.map (fun change => change.surface))
  issue : ∀ plan, buildQuarantineIssuePlan rt ⟨report, repository, issueLabels⟩ = .ok plan →
    Called (writeQuarantineIssueGuarded
      ⟨{ plan with dry_run := false }, issueClient, true, env⟩) →
    Permitted rt host permissionPolicy protectedPathsPolicy env "quarantine" "QUARANTINE_ISSUE" []

/-- The report asks for a quarantine issue, and its evidence can be written out. -/
def IssueWanted : Prop :=
  quarantineRequired rt report = true ∧
    ∃ lines, (quarantineRelevantFindings rt report).mapM (findingLine rt) = .ok lines

/-- Nothing on the way to the client keeps a write back. -/
def Reaches : Prop := Addressable repository ∧ writeDisabled env = false

theorem issue_called_exists_iff :
    (∃ plan, buildQuarantineIssuePlan rt ⟨report, repository, issueLabels⟩ = .ok plan ∧
      Called (writeQuarantineIssueGuarded
        ⟨{ plan with dry_run := false }, issueClient, true, env⟩)) ↔
      Reaches repository env ∧ IssueWanted rt report := by
  simp only [issue_called_iff]
  unfold buildQuarantineIssuePlan
  constructor
  · intro h
    obtain ⟨plan, hplan, haddr, _, hrun, hreq⟩ := h
    obtain ⟨lines, hl, hplan⟩ := bind_eq_ok.mp hplan
    cases hplan
    exact ⟨⟨haddr, hrun⟩, hreq, lines, hl⟩
  · intro h
    obtain ⟨⟨haddr, hrun⟩, hreq, lines, hl⟩ := h
    exact ⟨_, by simp only [hl]; rfl, haddr, rfl, hrun, hreq⟩

theorem changes_spared_iff (policy : NormalizedProtectedPathsPolicy) :
    (∀ p ∈ (repairPlan rt report repository baseBranch branchPrefix repairLabels).changes.map
        (fun change => change.surface), Spares policy p) ↔
      ∀ finding, Repairable report finding → Spares policy finding.surface := by
  simp only [mem_changes_iff]
  constructor
  · intro h finding hf
    exact h _ ⟨finding, hf, rfl⟩
  · intro h p hp
    obtain ⟨finding, hf, he⟩ := hp
    exact he ▸ h finding hf

/-- Check runs are always permitted. The other two writers are, for a write that reaches
the client, exactly when the policies permit by themselves what the plan requires. -/
theorem noUnpermittedWrite_iff :
    NoUnpermittedWrite rt host report repository permissionPolicy protectedPathsPolicy env headSha
        detailsUrl baseBranch branchPrefix repairLabels issueLabels checkRunClient
        pullRequestClient issueClient ↔
      (Reaches repository env →
        ((∃ finding, Repairable report finding) → Running host permissionPolicy env ∧
          ∀ finding, Repairable report finding →
            Spares (withProtectedPathDefaults protectedPathsPolicy) finding.surface) ∧
        (IssueWanted rt report →
          Running host permissionPolicy env ∧ MayOpenQuarantineIssue permissionPolicy)) := by
  constructor
  · rintro ⟨_, hpr, hissue⟩ ⟨haddr, hstop⟩
    constructor
    · intro hrep
      rw [← changes_spared_iff rt report repository baseBranch branchPrefix repairLabels, ← permitted_repair_iff rt]
      apply hpr
      rw [pullRequest_called_iff]
      exact ⟨haddr, rfl, hstop, (repairPlan_required_iff rt report repository baseBranch
        branchPrefix repairLabels).mpr hrep⟩
    · intro hwanted
      rw [← permitted_issue_iff rt host permissionPolicy protectedPathsPolicy env]
      obtain ⟨plan, hplan, hcalled⟩ := (issue_called_exists_iff rt report repository env issueLabels
        issueClient).mpr ⟨⟨haddr, hstop⟩, hwanted⟩
      exact hissue plan hplan hcalled
  · intro h
    refine ⟨?_, ?_, ?_⟩
    · intro plan hplan hcalled
      rw [checkRun_called_iff] at hcalled
      exact permitted_checkRun rt host report repository permissionPolicy protectedPathsPolicy env
        hplan hcalled.2.2.2
    · intro plan hcalled
      rw [pullRequest_called_iff] at hcalled
      obtain ⟨haddr, _, hstop, hreq⟩ := hcalled
      rw [permitted_repair_iff, changes_spared_iff]
      exact (h ⟨haddr, hstop⟩).1 ((repairPlan_required_iff rt report repository baseBranch
        branchPrefix repairLabels).mp hreq)
    · intro plan hplan hcalled
      obtain ⟨hreach, hwanted⟩ := (issue_called_exists_iff rt report repository env issueLabels
        issueClient).mp ⟨plan, hplan, hcalled⟩
      rw [permitted_issue_iff]
      exact (h hreach).2 hwanted

end

/-! ## A license repair -/

/-- The report of a repository without a license. -/
def licenseReport : AdmissibilityReport :=
  auditedReport .ascii { emptyReport with
    mode := .repairProjection
    verdict := .admissibleAsProjectionRepair
    yellow_count := 1 } "Verifrax/ADMISSORIUM" none none "Apache-2.0" none

/-- Under the shipped policies its pull request is written, although the license is protected. -/
theorem licenseReport_unpermitted :
    ¬ NoUnpermittedWrite .ascii shippedHost licenseReport "Verifrax/ADMISSORIUM"
      permissionPolicyFile protectedPathsFile (some (fun _ => none)) "0" none none none none none
      (fun _ => .ok ⟨1, none⟩) (fun _ => .ok ⟨1, none⟩) (fun _ => .ok ⟨1, none⟩) := by
  intro h
  obtain ⟨_, hpr, _⟩ := h
  have hrep : Repairable licenseReport (missingLicense "Verifrax/ADMISSORIUM" "Apache-2.0"
      ".github/governance/LICENSES.json") :=
    ⟨List.mem_singleton.mpr rfl, by decide +kernel, by decide +kernel⟩
  have hreq := (repairPlan_required_iff .ascii licenseReport "Verifrax/ADMISSORIUM" none none
    none).mpr ⟨_, hrep⟩
  have hpermitted := hpr (by
    rw [pullRequest_called_iff]
    exact ⟨⟨⟨"Verifrax", "ADMISSORIUM"⟩, by decide +kernel⟩, rfl, by decide, hreq⟩)
  rw [permitted_repair_iff] at hpermitted
  have hspared := hpermitted.2 "LICENSE" ((mem_changes_iff .ascii licenseReport
    "Verifrax/ADMISSORIUM" none none none _).mpr ⟨_, hrep, rfl⟩)
  have hcovered : ¬ Spares shippedProtection "LICENSE" := by
    rw [shipped_spares_iff]
    decide +kernel
  exact hcovered hspared

end Admissorium.App.GuardedWrites
