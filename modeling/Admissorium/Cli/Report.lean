import Admissorium.App.Plans
import Mathlib.Algebra.Order.Ring.Rat
import Mathlib.Data.Nat.Cast.Order.Ring

/-!
# The report of one run

`cli/admissorium` assembles a report from the findings of a run; `reports/finding-lists`,
`reports/merge-verdict` and `app/quarantine-issue-plan` publish what follows from it. Each of
the three decides for itself which findings ask for quarantine, and they agree on a list of
findings exactly when every finding asks for it by its action, or none does in any way.
-/
namespace Admissorium.Cli
set_option autoImplicit false

open JavaScript Reports App.Plans

/-! ## The finding lists -/

inductive ListSeverity where
  | severity (s : Severity)
  | quarantined
  deriving DecidableEq, Repr

structure FindingListArtifact where
  run_id : String
  severity : ListSeverity
  count : Number
  findings : List Finding

structure FindingListArtifacts where
  redList : FindingListArtifact
  yellowList : FindingListArtifact
  greenList : FindingListArtifact
  quarantineList : FindingListArtifact

def findingsBySeverity (report : AdmissibilityReport) (severity : Severity) : List Finding :=
  report.findings.filter (fun finding => finding.severity = severity)

/-- `finding.recommended_action.toLowerCase().includes("quarantine")`. -/
def actionAsks (rt : Runtime) (finding : Finding) : Bool :=
  Text.includes (rt.toLowerCase finding.recommended_action) "quarantine"

/-- `finding.finding_id.includes("QUARANTINE")`. -/
def idAsks (finding : Finding) : Bool := Text.includes finding.finding_id "QUARANTINE"

/-- `finding.finding_id.toLowerCase().includes("quarantine")`. -/
def loweredIdAsks (rt : Runtime) (finding : Finding) : Bool :=
  Text.includes (rt.toLowerCase finding.finding_id) "quarantine"

def quarantineFindings (rt : Runtime) (report : AdmissibilityReport) : List Finding :=
  report.findings.filter (fun finding => idAsks finding || actionAsks rt finding)

def buildFindingListArtifacts (rt : Runtime) (report : AdmissibilityReport) :
    FindingListArtifacts where
  redList := ⟨report.run_id, .severity .red, report.red_count, findingsBySeverity report .red⟩
  yellowList :=
    ⟨report.run_id, .severity .yellow, report.yellow_count, findingsBySeverity report .yellow⟩
  greenList :=
    ⟨report.run_id, .severity .green, report.green_count, findingsBySeverity report .green⟩
  quarantineList :=
    ⟨report.run_id, .quarantined, report.quarantine_count, quarantineFindings rt report⟩

/-! ## The report -/

/-- What a run takes from its clock and its arguments. -/
structure Run where
  run_id : String
  started_at : String
  org : String
  mode : ReportMode

def verdict (findings : List Finding) : AdmissibilityVerdict :=
  if findings.any (fun finding => finding.severity = .red) then .inadmissible
  else if findings.any (fun finding => finding.severity = .yellow) then .admissibleAsProjectionRepair
  else .admissible

def classifyRed (findings : List Finding) : List Finding :=
  findings.filter (fun finding => finding.severity = .red)

def classifyYellow (findings : List Finding) : List Finding :=
  findings.filter (fun finding => finding.severity = .yellow)

def assembleReport (rt : Runtime) (run : Run) (findings : List Finding) : AdmissibilityReport where
  run_id := run.run_id
  started_at := run.started_at
  org := run.org
  mode := run.mode
  accepted_graph_ref := "reports/current/accepted-graph.json"
  candidate_graph_ref := "reports/current/candidate-graph.json"
  verdict := verdict findings
  red_count := ((classifyRed findings).length : Nat)
  yellow_count := ((classifyYellow findings).length : Nat)
  green_count := if findings.length = 0 then 1 else 0
  quarantine_count := ((findings.filter (actionAsks rt)).length : Nat)
  findings
  repair_plan_ref := "reports/current/repair-plan.json"

/-! ## One story -/

/-- What the artifacts of one report say about the same findings. -/
structure TellsOneStory (rt : Runtime) (report : AdmissibilityReport) (repositoryFullName : String)
    (labels : Option (List String)) : Prop where
  red : (buildFindingListArtifacts rt report).redList.count =
    ((buildFindingListArtifacts rt report).redList.findings.length : Nat)
  yellow : (buildFindingListArtifacts rt report).yellowList.count =
    ((buildFindingListArtifacts rt report).yellowList.findings.length : Nat)
  quarantine : (buildFindingListArtifacts rt report).quarantineList.count =
    ((buildFindingListArtifacts rt report).quarantineList.findings.length : Nat)
  merge : (buildFindingListArtifacts rt report).quarantineList.findings ≠ [] ↔
    (buildMergeVerdictArtifact report).verdict = .quarantined
  plan : ∃ plan, buildQuarantineIssuePlan rt { report, repositoryFullName, labels } = .ok plan ∧
    ((buildFindingListArtifacts rt report).quarantineList.findings ≠ [] ↔ plan.required = true) ∧
    plan.finding_count = (buildFindingListArtifacts rt report).quarantineList.findings.length
  allowed : (buildMergeVerdictArtifact report).merge_allowed = true →
    (buildFindingListArtifacts rt report).redList.findings = [] ∧
      (buildFindingListArtifacts rt report).quarantineList.findings = []

/-- The evidence of a finding can be written as text. -/
def HasText (rt : Runtime) (finding : Finding) : Prop :=
  (∃ expected, finding.expected.toText rt = .ok expected) ∧
    ∃ observed, finding.observed.toText rt = .ok observed

section Story
variable {rt : Runtime} {run : Run} {findings : List Finding} {repositoryFullName : String}
  {labels : Option (List String)}

theorem exists_findingLine_iff (finding : Finding) :
    (∃ line, findingLine rt finding = .ok line) ↔ HasText rt finding :=
  exists_bind₂_iff

/-- A plan is built from the findings it lists, where each has a text. -/
theorem exists_plan_iff (report : AdmissibilityReport) (P : QuarantineIssuePlan → Prop)
    (Q : Bool → Nat → Prop) (h : ∀ plan, P plan ↔ Q plan.required plan.finding_count) :
    (∃ plan, buildQuarantineIssuePlan rt { report, repositoryFullName, labels } = .ok plan ∧ P plan) ↔
      (∀ f ∈ quarantineRelevantFindings rt report, HasText rt f) ∧
        Q (quarantineRequired rt report) (quarantineRelevantFindings rt report).length := by
  have hlines : (∀ f ∈ quarantineRelevantFindings rt report, HasText rt f) ↔
      ∃ lines, (quarantineRelevantFindings rt report).mapM (findingLine rt) = .ok lines := by
    rw [exists_mapM_eq_ok_iff]
    exact forall₂_congr (fun f _ => (exists_findingLine_iff f).symm)
  rw [hlines]
  constructor
  · intro hplan
    obtain ⟨plan, hbuild, hp⟩ := hplan
    obtain ⟨lines, hmap, hrest⟩ := bind_eq_ok.mp hbuild
    cases hrest
    exact ⟨⟨lines, hmap⟩, (h _).mp hp⟩
  · intro hplan
    obtain ⟨⟨lines, hmap⟩, hq⟩ := hplan
    exact ⟨_, bind_eq_ok.mpr ⟨lines, hmap, rfl⟩, (h _).mpr hq⟩

/-! ### The numbers of a report -/

theorem quarantine_count_pos_iff : (assembleReport rt run findings).quarantine_count > 0 ↔
    findings.filter (actionAsks rt) ≠ [] := by
  change (0 : Number) < ((findings.filter (actionAsks rt)).length : Nat) ↔ _
  rw [Nat.cast_pos, List.length_pos_iff]

theorem mergeVerdict_quarantined_iff :
    mergeVerdictForReport (assembleReport rt run findings) = .quarantined ↔
      findings.filter (actionAsks rt) ≠ [] := by
  have hverdict : verdict findings ≠ .quarantined := by
    unfold verdict
    split
    · exact nofun
    · split <;> exact nofun
  rw [← @quarantine_count_pos_iff rt run findings, mergeVerdictForReport]
  constructor
  · intro h
    by_contra hnone
    rw [if_neg (fun hc => hc.elim hverdict hnone)] at h
    repeat' split at h
    all_goals cases h
  · exact fun h => if_pos (Or.inr h)

/-- Only a report without a red or a quarantined finding is merged. -/
theorem merge_allowed_red (h : (buildMergeVerdictArtifact (assembleReport rt run findings)).merge_allowed
    = true) : classifyRed findings = [] := by
  by_contra hred
  have hany : findings.any (fun finding => finding.severity = .red) = true := by
    obtain ⟨f, hf⟩ := List.exists_mem_of_ne_nil _ hred
    obtain ⟨hmem, hsev⟩ := List.mem_filter.mp hf
    exact List.any_eq_true.mpr ⟨f, hmem, hsev⟩
  have hverdict : (assembleReport rt run findings).verdict = .inadmissible := if_pos hany
  have hmerge : mergeVerdictForReport (assembleReport rt run findings) = .quarantined ∨
      mergeVerdictForReport (assembleReport rt run findings) = .blockedByConstitutionalDrift := by
    unfold mergeVerdictForReport
    by_cases hq : (assembleReport rt run findings).verdict = .quarantined ∨
        (assembleReport rt run findings).quarantine_count > 0
    · exact Or.inl (if_pos hq)
    · rw [if_neg hq, if_pos (Or.inl hverdict)]
      exact Or.inr rfl
  rw [buildMergeVerdictArtifact] at h
  rcases hmerge with hm | hm <;> rw [hm] at h <;> cases h

theorem merge_allowed_quarantine
    (h : (buildMergeVerdictArtifact (assembleReport rt run findings)).merge_allowed = true) :
    findings.filter (actionAsks rt) = [] := by
  by_contra hasks
  rw [buildMergeVerdictArtifact, mergeVerdict_quarantined_iff.mpr hasks] at h
  cases h

/-! ### The three ways to ask -/

/-- No finding asks for quarantine, by its action or by its id. -/
def NoneAsks (rt : Runtime) (findings : List Finding) : Prop :=
  ∀ f ∈ findings, actionAsks rt f = false ∧ idAsks f = false ∧ loweredIdAsks rt f = false

/-- Every finding asks for quarantine by its action, and can be listed. -/
def AllAsk (rt : Runtime) (findings : List Finding) : Prop :=
  ∀ f ∈ findings, actionAsks rt f = true ∧ HasText rt f

theorem quarantineRelevantFindings_eq :
    quarantineRelevantFindings rt (assembleReport rt run findings) =
      if findings.filter (actionAsks rt) ≠ [] then findings
      else findings.filter (fun finding => loweredIdAsks rt finding || actionAsks rt finding) := by
  unfold quarantineRelevantFindings
  by_cases h : findings.filter (actionAsks rt) ≠ []
  · rw [if_pos h, if_pos (quarantine_count_pos_iff.mpr h)]
    rfl
  · rw [if_neg h, if_neg (fun hq => h (quarantine_count_pos_iff.mp hq))]
    rfl

theorem quarantineRequired_eq : quarantineRequired rt (assembleReport rt run findings) = true ↔
    findings.filter (actionAsks rt) ≠ [] ∨
      quarantineRelevantFindings rt (assembleReport rt run findings) ≠ [] := by
  rw [quarantineRequired, Bool.or_eq_true, decide_eq_true_eq, decide_eq_true_eq,
    quarantine_count_pos_iff]
  exact or_congr Iff.rfl List.length_pos_iff

theorem filter_eq_nil_of_noneAsks (h : NoneAsks rt findings) :
    findings.filter (actionAsks rt) = [] ∧
      findings.filter (fun finding => idAsks finding || actionAsks rt finding) = [] ∧
      findings.filter (fun finding => loweredIdAsks rt finding || actionAsks rt finding) = [] := by
  simp only [List.filter_eq_nil_iff]
  refine ⟨fun f hf => ?_, fun f hf => ?_, fun f hf => ?_⟩ <;>
    obtain ⟨haction, hid, hlowered⟩ := h f hf <;> simp [haction, hid, hlowered]

theorem filter_eq_self_of_allAsk (h : AllAsk rt findings) :
    findings.filter (actionAsks rt) = findings ∧
      findings.filter (fun finding => idAsks finding || actionAsks rt finding) = findings := by
  simp only [List.filter_eq_self]
  refine ⟨fun f hf => (h f hf).1, fun f hf => ?_⟩
  rw [(h f hf).1, Bool.or_true]

/-- The plan as the story needs it, in terms of the findings it lists. -/
theorem plan_iff : (∃ plan, buildQuarantineIssuePlan rt
      { report := assembleReport rt run findings, repositoryFullName, labels } = .ok plan ∧
      (quarantineFindings rt (assembleReport rt run findings) ≠ [] ↔ plan.required = true) ∧
      plan.finding_count = (quarantineFindings rt (assembleReport rt run findings)).length) ↔
    (∀ f ∈ quarantineRelevantFindings rt (assembleReport rt run findings), HasText rt f) ∧
      (quarantineFindings rt (assembleReport rt run findings) ≠ [] ↔
        quarantineRequired rt (assembleReport rt run findings) = true) ∧
      (quarantineRelevantFindings rt (assembleReport rt run findings)).length =
        (quarantineFindings rt (assembleReport rt run findings)).length :=
  exists_plan_iff _ _ (fun required count =>
    (quarantineFindings rt (assembleReport rt run findings) ≠ [] ↔ required = true) ∧
      count = (quarantineFindings rt (assembleReport rt run findings)).length) (fun _ => Iff.rfl)

theorem tellsOneStory_of_allAsk (h : AllAsk rt findings) (hne : findings ≠ []) :
    TellsOneStory rt (assembleReport rt run findings) repositoryFullName labels := by
  obtain ⟨hcounted, hlisted⟩ := filter_eq_self_of_allAsk h
  have hasks : findings.filter (actionAsks rt) ≠ [] := by
    rw [hcounted]
    exact hne
  have hlist : quarantineFindings rt (assembleReport rt run findings) = findings := hlisted
  have hlistne : quarantineFindings rt (assembleReport rt run findings) ≠ [] := by
    rw [hlist]
    exact hne
  have hrelevant : quarantineRelevantFindings rt (assembleReport rt run findings) = findings := by
    rw [quarantineRelevantFindings_eq, if_pos hasks]
  exact {
    red := rfl
    yellow := rfl
    quarantine := by
      change ((findings.filter (actionAsks rt)).length : Number) =
        ((quarantineFindings rt (assembleReport rt run findings)).length : Nat)
      rw [hcounted, hlist]
    merge := iff_of_true hlistne (mergeVerdict_quarantined_iff.mpr hasks)
    plan := by
      refine plan_iff.mpr ⟨?_, iff_of_true hlistne ?_, by rw [hrelevant, hlist]⟩
      · rw [hrelevant]
        exact fun f hf => (h f hf).2
      · exact quarantineRequired_eq.mpr (Or.inl hasks)
    allowed := fun hallowed => absurd (merge_allowed_quarantine hallowed) hasks }

theorem tellsOneStory_of_noneAsks (h : NoneAsks rt findings) :
    TellsOneStory rt (assembleReport rt run findings) repositoryFullName labels := by
  obtain ⟨hcounted, hlisted, hlowered⟩ := filter_eq_nil_of_noneAsks h
  have hlist : quarantineFindings rt (assembleReport rt run findings) = [] := hlisted
  have hrelevant : quarantineRelevantFindings rt (assembleReport rt run findings) = [] := by
    rw [quarantineRelevantFindings_eq, if_neg (fun hne => hne hcounted), hlowered]
  exact {
    red := rfl
    yellow := rfl
    quarantine := by
      change ((findings.filter (actionAsks rt)).length : Number) =
        ((quarantineFindings rt (assembleReport rt run findings)).length : Nat)
      rw [hcounted, hlist]
    merge := by
      refine iff_of_false (fun hne => hne hlist) ?_
      exact fun hq => mergeVerdict_quarantined_iff.mp hq hcounted
    plan := by
      refine plan_iff.mpr ⟨?_, iff_of_false (fun hne => hne hlist) ?_, by rw [hrelevant, hlist]⟩
      · rw [hrelevant]
        exact fun f hf => absurd hf List.not_mem_nil
      · rw [quarantineRequired_eq]
        exact fun hrequired => hrequired.elim (fun hne => hne hcounted) (fun hne => hne hrelevant)
    allowed := fun hallowed => ⟨merge_allowed_red hallowed, hlist⟩ }

/-- A quarantine list as long as its count, and a plan as long as the list, leave no choice. -/
theorem asks_of_tellsOneStory
    (h : TellsOneStory rt (assembleReport rt run findings) repositoryFullName labels) :
    AllAsk rt findings ∨ NoneAsks rt findings := by
  have hcount : (findings.filter (actionAsks rt)).length =
      (quarantineFindings rt (assembleReport rt run findings)).length := Nat.cast_inj.mp h.quarantine
  obtain ⟨htext, _, hplan⟩ := plan_iff.mp h.plan
  rw [quarantineRelevantFindings_eq] at htext hplan
  by_cases hasks : findings.filter (actionAsks rt) ≠ []
  · rw [if_pos hasks] at htext hplan
    have hall := List.length_filter_eq_length_iff.mp (hcount.trans hplan.symm)
    exact Or.inl (fun f hf => ⟨hall f hf, htext f hf⟩)
  · rw [if_neg hasks] at hplan
    have hcounted := not_not.mp hasks
    rw [hcounted, List.length_nil] at hcount
    have hlisted : findings.filter (fun finding => idAsks finding || actionAsks rt finding) = [] :=
      List.length_eq_zero_iff.mp hcount.symm
    have hlowered := List.length_eq_zero_iff.mp (hplan.trans hcount.symm)
    rw [List.filter_eq_nil_iff] at hcounted hlisted hlowered
    refine Or.inr (fun f hf => ?_)
    have hid := hlisted f hf
    have hlow := hlowered f hf
    rw [Bool.not_eq_true, Bool.or_eq_false_iff] at hid hlow
    exact ⟨hid.2, hid.1, hlow.1⟩

/-- The artifacts of a run tell one story exactly when all of its findings ask for quarantine
by their action, or none asks for it at all. -/
theorem tellsOneStory_iff (run : Run) (findings : List Finding) (repositoryFullName : String)
    (labels : Option (List String)) :
    TellsOneStory rt (assembleReport rt run findings) repositoryFullName labels ↔
      AllAsk rt findings ∨ NoneAsks rt findings := by
  constructor
  · exact asks_of_tellsOneStory
  · intro h
    by_cases hne : findings = []
    · subst hne
      exact tellsOneStory_of_noneAsks (fun f hf => absurd hf List.not_mem_nil)
    · exact h.elim (fun hall => tellsOneStory_of_allAsk hall hne) tellsOneStory_of_noneAsks

end Story

/-! ### A finding that asks by its id only -/

def quarantinedSurface : Finding where
  finding_id := "RED-QUARANTINED-SURFACE"
  severity := .red
  repo := "Verifrax/ADMISSORIUM"
  surface := "README.md"
  invariant := "no_orphan_surfaces"
  expected := .null
  observed := .null
  source_of_truth := ".github"
  autofix_allowed := false
  recommended_action := "Review the surface."

def someRun : Run := ⟨"admissorium-1", "2026-01-01T00:00:00.000Z", "Verifrax", .audit⟩

theorem quarantinedSurface_not_tellsOneStory : ¬ TellsOneStory .ascii
    (assembleReport .ascii someRun [quarantinedSurface]) "Verifrax/ADMISSORIUM" none := by
  intro h
  have hcount := Nat.cast_inj.mp h.quarantine
  revert hcount
  decide

end Admissorium.Cli
