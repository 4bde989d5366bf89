import Admissorium.App.Plans
import Admissorium.Invariants.LicenseConsistency

/-!
# What automatic repairs target

The repair pull request plan and the repair plan of `compilers/repair-plan-compiler`
take over the findings marked as repairable. Whether their surfaces are protected is a
question neither asks of the protection policy.
-/
namespace Admissorium.App.RepairTargets
set_option autoImplicit false

open JavaScript Policies Permissions Reports Plans Invariants.LicenseConsistency

structure RepairPlanItem where
  finding_id : String
  repo : String
  surface : String
  action : String
  auto_pr_allowed : Bool
  deriving DecidableEq, Repr

def repairPlanItem (finding : Finding) : RepairPlanItem where
  finding_id := finding.finding_id
  repo := finding.repo
  surface := finding.surface
  action := finding.recommended_action
  auto_pr_allowed := finding.autofix_allowed

/-- `compilers/repair-plan-compiler`. -/
def compileRepairPlan (findings : List Finding) : List RepairPlanItem :=
  findings.map repairPlanItem

/-- The shipped protection policy lets the surface be repaired. -/
def MayBeRepaired (surface : String) : Prop :=
  ∃ d, protectedPathDecision [surface] protectedPathsFile = .ok d ∧
    d.decision = .allowProjectionRepair

theorem mayBeRepaired_iff (surface : String) :
    MayBeRepaired surface ↔ ¬ classPerimeter.Covers surface := by
  have huntouched := protectedPathDecision_untouched_iff [surface] protectedPathsFile
  simp only [List.forall_mem_singleton] at huntouched
  have hspares : Spares (withProtectedPathDefaults protectedPathsFile) surface ↔
      ¬ classPerimeter.Covers surface := shipped_spares_iff surface
  rw [← hspares, ← huntouched]
  constructor
  · intro hcase
    obtain ⟨d, hd, ha⟩ := hcase
    rcases protectedPathDecision_cases hd with rfl | ⟨matched, rfl⟩
    · exact hd
    · simp only [touched] at ha
      split at ha <;> cases ha
  · intro h
    exact ⟨untouched, h, rfl⟩

section

variable (rt : Runtime) (report : AdmissibilityReport) (repository : String)
  (baseBranch branchPrefix : Option String) (labels : Option (List String))

/-- The repair plan of the report. -/
def repairPlan : ProjectionRepairPrPlan :=
  buildProjectionRepairPrPlan rt ⟨report, repository, baseBranch, branchPrefix, labels⟩

/-- A finding that the plan turns into a change. -/
def Repairable (finding : Finding) : Prop :=
  finding ∈ report.findings ∧ isProjectionRepairFinding finding = true ∧
    isProtectedSurface finding.surface = false

theorem mem_changes_iff (surface : String) :
    surface ∈ (repairPlan rt report repository baseBranch branchPrefix labels).changes.map
        (fun change => change.surface) ↔
      ∃ finding, Repairable report finding ∧ finding.surface = surface := by
  have hchanges : (repairPlan rt report repository baseBranch branchPrefix labels).changes =
      ((report.findings.filter isProjectionRepairFinding).filter
        (fun finding => !isProtectedSurface finding.surface)).map (toChange rt) := rfl
  rw [hchanges]
  simp only [List.mem_map, List.mem_filter, Repairable, Bool.not_eq_true']
  constructor
  · intro h
    obtain ⟨_, ⟨finding, ⟨⟨hm, hr⟩, hp⟩, rfl⟩, rfl⟩ := h
    exact ⟨finding, ⟨hm, hr, hp⟩, rfl⟩
  · intro h
    obtain ⟨finding, ⟨hm, hr, hp⟩, rfl⟩ := h
    exact ⟨_, ⟨finding, ⟨⟨hm, hr⟩, hp⟩, rfl⟩, rfl⟩

/-- The repair plan requires a pull request exactly when a finding is repairable. -/
theorem repairPlan_required_iff :
    (repairPlan rt report repository baseBranch branchPrefix labels).required = true ↔
      ∃ finding, Repairable report finding := by
  have hrequired : (repairPlan rt report repository baseBranch branchPrefix labels).required =
      decide ((repairPlan rt report repository baseBranch branchPrefix labels).changes.length >
        0) := rfl
  rw [hrequired, decide_eq_true_iff, gt_iff_lt, List.length_pos_iff_exists_mem]
  constructor
  · intro h
    obtain ⟨change, hc⟩ := h
    obtain ⟨finding, hf, _⟩ := (mem_changes_iff rt report repository baseBranch branchPrefix
      labels change.surface).mp (List.mem_map_of_mem hc)
    exact ⟨finding, hf⟩
  · intro h
    obtain ⟨finding, hf⟩ := h
    obtain ⟨change, hc, _⟩ := List.mem_map.mp ((mem_changes_iff rt report repository baseBranch
      branchPrefix labels finding.surface).mpr ⟨finding, hf, rfl⟩)
    exact ⟨change, hc⟩

/-- Every planned change and every item marked for an automatic pull request is on a
surface that may be repaired. -/
structure TargetsUnprotected : Prop where
  changes : ∀ change ∈ (repairPlan rt report repository baseBranch branchPrefix labels).changes,
    MayBeRepaired change.surface
  items : ∀ item ∈ compileRepairPlan report.findings, item.auto_pr_allowed = true →
    MayBeRepaired item.surface

theorem targetsUnprotected_findings :
    TargetsUnprotected rt report repository baseBranch branchPrefix labels ↔
      ∀ finding ∈ report.findings, finding.autofix_allowed = true →
        ¬ classPerimeter.Covers finding.surface := by
  constructor
  · intro h finding hf ha
    rw [← mayBeRepaired_iff]
    exact h.items (repairPlanItem finding) (List.mem_map_of_mem hf) ha
  · intro h
    refine ⟨?_, ?_⟩
    · intro change hc
      obtain ⟨finding, ⟨hf, hrep, _⟩, he⟩ := (mem_changes_iff rt report repository baseBranch
        branchPrefix labels change.surface).mp (List.mem_map_of_mem hc)
      rw [← he, mayBeRepaired_iff]
      exact h finding hf (Bool.and_eq_true_iff.mp hrep).2
    · intro item hi ha
      obtain ⟨finding, hf, rfl⟩ := List.mem_map.mp hi
      rw [mayBeRepaired_iff]
      exact h finding hf ha

/-- The findings of the license audit, put into the report. -/
def auditedReport (repo : String) (licenseText readmeText : Option String)
    (expectedLicense : String) (sourceOfTruth : Option String) : AdmissibilityReport :=
  { report with
    findings :=
      licenseConsistencyInvariant rt repo licenseText readmeText expectedLicense sourceOfTruth }

theorem targetsUnprotected_license (repo : String) (licenseText readmeText : Option String)
    (expectedLicense : String) (sourceOfTruth : Option String) :
    TargetsUnprotected rt (auditedReport rt report repo licenseText readmeText expectedLicense
        sourceOfTruth) repository baseBranch branchPrefix labels ↔
      LicenseShown rt licenseText expectedLicense := by
  have hlicense : classPerimeter.Covers "LICENSE" := by decide +kernel
  have hreadme : ¬ classPerimeter.Covers "README.md" := by decide +kernel
  have hiff : (∃ finding ∈ (auditedReport rt report repo licenseText readmeText expectedLicense
      sourceOfTruth).findings, finding.surface = "LICENSE") ↔
        ¬ LicenseShown rt licenseText expectedLicense := license_surface_iff
  rw [targetsUnprotected_findings, ← not_iff_not, ← hiff]
  constructor
  · intro h
    simp only [not_forall, not_not] at h
    obtain ⟨finding, hf, _, hc⟩ := h
    rcases (license_finding hf).2 with hs | hs
    · exact ⟨finding, hf, hs⟩
    · rw [hs] at hc
      exact absurd hc hreadme
  · rintro ⟨finding, hf, hs⟩ h
    exact h finding hf (license_finding hf).1 (hs ▸ hlicense)

/-- Repairs stay off the protected surfaces exactly when no finding on one is marked as
repairable; and the license audit marks one unless the license it expects is shown. -/
theorem targetsUnprotected_iff :
    (TargetsUnprotected rt report repository baseBranch branchPrefix labels ↔
      ∀ finding ∈ report.findings, finding.autofix_allowed = true →
        ¬ classPerimeter.Covers finding.surface) ∧
    ∀ (repo : String) (licenseText readmeText : Option String) (expectedLicense : String)
      (sourceOfTruth : Option String),
      TargetsUnprotected rt (auditedReport rt report repo licenseText readmeText expectedLicense
        sourceOfTruth) repository baseBranch branchPrefix labels ↔
        LicenseShown rt licenseText expectedLicense :=
  ⟨targetsUnprotected_findings rt report repository baseBranch branchPrefix labels,
    targetsUnprotected_license rt report repository baseBranch branchPrefix labels⟩

end

/-- A report without findings, to be filled by an audit. -/
def emptyReport : AdmissibilityReport where
  run_id := "run-1"
  started_at := "2026-01-01T00:00:00.000Z"
  org := "Verifrax"
  mode := .audit
  accepted_graph_ref := "graph/current/accepted-graph.json"
  candidate_graph_ref := "graph/current/candidate-graph.json"
  verdict := .admissible
  red_count := 0
  yellow_count := 0
  green_count := 0
  quarantine_count := 0
  findings := []
  repair_plan_ref := "reports/current/repair-plan.json"

/-- The audit of a repository without a license plans a repair of the protected file. -/
theorem missing_license_targeted :
    ¬ TargetsUnprotected .ascii (auditedReport .ascii emptyReport "Verifrax/ADMISSORIUM" none none
      "Apache-2.0" none) "Verifrax/ADMISSORIUM" none none none := by
  intro h
  have hitem := h.items (repairPlanItem (missingLicense "Verifrax/ADMISSORIUM" "Apache-2.0"
    ".github/governance/LICENSES.json")) (List.mem_singleton.mpr rfl) rfl
  rw [mayBeRepaired_iff] at hitem
  exact hitem (by decide +kernel)

end Admissorium.App.RepairTargets
