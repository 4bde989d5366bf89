import Admissorium.App.Permissions

/-!
# What a write decision rests on

A write is granted for one of four reasons, each with its own conditions on the
mode, the class of the write and the paths (`Grant`). `decideWrite` allows exactly
the granted requests of an unstopped actuator (`allow_iff`) and lets exactly those
of them write that are executed, or whose class is not on the list of remote
classes (`write_allowed_iff`).
-/
namespace Admissorium.App.WriteDecision
set_option autoImplicit false

open JavaScript Policies Permissions

/-! ## Classes of writes -/

theorem isProjectionRepairWrite_eq (writeClass : String) :
    isProjectionRepairWrite writeClass = Text.includes writeClass "PROJECTION_REPAIR" := by
  have hnamed : ∀ c ∈ ["PROJECTION_REPAIR_BRANCH", "PROJECTION_REPAIR_PR", "PROJECTION_REPAIR"],
      Text.includes c "PROJECTION_REPAIR" = true := by decide +kernel
  cases h : Text.includes writeClass "PROJECTION_REPAIR" with
  | true => simp [isProjectionRepairWrite, h]
  | false =>
      have hne : ∀ c ∈ ["PROJECTION_REPAIR_BRANCH", "PROJECTION_REPAIR_PR", "PROJECTION_REPAIR"],
          writeClass ≠ c := by
        rintro c hc rfl
        rw [hnamed _ hc] at h
        cases h
      simp only [List.forall_mem_cons] at hne
      simp [isProjectionRepairWrite, h, hne]

/-- A repair class is none of the classes with a rule of their own. -/
theorem repair_not_listed {writeClass : String}
    (h : Text.includes writeClass "PROJECTION_REPAIR" = true) :
    writeClass ∉ "CHECK_RUN" :: reportClasses ∧ writeClass ≠ "QUARANTINE_ISSUE" := by
  have hfree : ∀ c ∈ "QUARANTINE_ISSUE" :: "CHECK_RUN" :: reportClasses,
      Text.includes c "PROJECTION_REPAIR" = false := by decide +kernel
  constructor
  · intro hm
    rw [hfree _ (List.mem_cons_of_mem _ hm)] at h
    cases h
  · rintro rfl
    rw [hfree _ (by simp)] at h
    cases h

/-- Of the repair classes only one is on the list of remote classes. -/
theorem repair_remote_iff {writeClass : String}
    (h : Text.includes writeClass "PROJECTION_REPAIR" = true) :
    writeClass ∈ remoteWriteClasses ↔ writeClass = "PROJECTION_REPAIR_BRANCH" := by
  have hone : ∀ c ∈ remoteWriteClasses,
      Text.includes c "PROJECTION_REPAIR" = true → c = "PROJECTION_REPAIR_BRANCH" := by
    decide +kernel
  constructor
  · exact fun hm => hone writeClass hm h
  · rintro rfl
    decide

/-- The flag that opens repairs, or the mode that is named after them. -/
def RepairMode (mode : String) (modePolicy : ModePolicy) : Prop :=
  modePolicy "may_open_projection_repair_pr" = some true ∨ mode = "projection_repair"

instance (mode : String) (modePolicy : ModePolicy) : Decidable (RepairMode mode modePolicy) :=
  inferInstanceAs (Decidable (_ ∨ _))

/-- A class outside the reports is allowed outside audit, for one of three reasons. -/
theorem allowedByClass_iff (mode : String) (modePolicy : ModePolicy) (writeClass : String)
    (review : Bool) :
    allowedByClass mode modePolicy writeClass review = true ↔
      writeClass ∈ reportClasses ∨ mode ≠ "audit" ∧
        (writeClass = "CHECK_RUN" ∧ modePolicy "may_emit_check_runs" = some true ∨
          review = false ∧ (Text.includes writeClass "PROJECTION_REPAIR" = true ∧
              RepairMode mode modePolicy ∨
            writeClass = "QUARANTINE_ISSUE" ∧
              modePolicy "may_open_quarantine_issue" = some true)) := by
  by_cases hreport : writeClass ∈ reportClasses
  · simp [allowedByClass, hreport]
  by_cases hmode : mode = "audit"
  · simp [allowedByClass, hreport, hmode]
  by_cases hcheck : writeClass = "CHECK_RUN"
  · subst hcheck
    have hrepair : Text.includes "CHECK_RUN" "PROJECTION_REPAIR" = false := by decide +kernel
    simp [allowedByClass, hreport, hmode, checkRunWriteAllowed, projectionRepairAllowed,
      isProjectionRepairWrite_eq, hrepair, quarantineIssueAllowed]
  cases review with
  | true => simp [allowedByClass, hreport, hcheck]
  | false =>
      simp only [allowedByClass, projectionRepairAllowed, isProjectionRepairWrite_eq,
        checkRunWriteAllowed, quarantineIssueAllowed, RepairMode]
      simp [hreport, hmode, hcheck, and_comm]

/-! ## Why a write is granted -/

section Requests

variable (rt : Runtime) (host : Host) (input : DecideWriteInput)

/-- No path the decision looks at is protected. -/
def PathsSpared : Prop :=
  ∀ p ∈ input.effectivePaths, Spares (input.normalizedProtectedPolicy host) p

/-- The reasons for which a class of writes is allowed. -/
inductive Grant : Prop where
  | report (class_ : input.normalizedWriteClass rt ∈ reportClasses)
      (paths : ∃ pd, input.pathDecision host = .ok pd)
  | checkRun (mode : input.normalizedMode ≠ "audit")
      (class_ : input.normalizedWriteClass rt = "CHECK_RUN")
      (flag : input.modePolicy host "may_emit_check_runs" = some true)
      (paths : ∃ pd, input.pathDecision host = .ok pd)
  | repair (mode : input.normalizedMode ≠ "audit")
      (class_ : Text.includes (input.normalizedWriteClass rt) "PROJECTION_REPAIR" = true)
      (flag : RepairMode input.normalizedMode (input.modePolicy host))
      (paths : PathsSpared host input)
  | quarantine (mode : input.normalizedMode ≠ "audit")
      (class_ : input.normalizedWriteClass rt = "QUARANTINE_ISSUE")
      (flag : input.modePolicy host "may_open_quarantine_issue" = some true)
      (paths : PathsSpared host input)

variable {rt input} in
/-- A repair has one reason to be granted. -/
theorem grant_repair_iff
    (h : Text.includes (input.normalizedWriteClass rt) "PROJECTION_REPAIR" = true) :
    Grant rt host input ↔ input.normalizedMode ≠ "audit" ∧
      RepairMode input.normalizedMode (input.modePolicy host) ∧ PathsSpared host input := by
  obtain ⟨hlisted, hquarantine⟩ := repair_not_listed h
  constructor
  · intro hcase
    rcases hcase with ⟨hc, _⟩ | ⟨_, hc, _, _⟩ | ⟨hm, _, hf, hp⟩ | ⟨_, hc, _, _⟩
    · exact absurd (List.mem_cons_of_mem _ hc) hlisted
    · exact absurd (by rw [hc]; simp) hlisted
    · exact ⟨hm, hf, hp⟩
    · exact absurd hc hquarantine
  · intro hcase
    obtain ⟨hm, hf, hp⟩ := hcase
    exact .repair hm h hf hp

variable {rt input} in
/-- So has a quarantine issue. -/
theorem grant_quarantine_iff (h : input.normalizedWriteClass rt = "QUARANTINE_ISSUE") :
    Grant rt host input ↔ input.normalizedMode ≠ "audit" ∧
      input.modePolicy host "may_open_quarantine_issue" = some true ∧ PathsSpared host input := by
  have hlisted : "QUARANTINE_ISSUE" ∉ "CHECK_RUN" :: reportClasses ∧
      Text.includes "QUARANTINE_ISSUE" "PROJECTION_REPAIR" ≠ true := by decide +kernel
  rw [← h] at hlisted
  constructor
  · intro hcase
    rcases hcase with ⟨hc, _⟩ | ⟨_, hc, _, _⟩ | ⟨_, hc, _, _⟩ | ⟨hm, _, hf, hp⟩
    · exact absurd (List.mem_cons_of_mem _ hc) hlisted.1
    · exact absurd (by rw [hc]; simp) hlisted.1
    · exact absurd hc hlisted.2
    · exact ⟨hm, hf, hp⟩
  · intro hcase
    obtain ⟨hm, hf, hp⟩ := hcase
    exact .quarantine hm h hf hp

/-- The class is local, or the caller asked for the write to be executed. -/
def Executable : Prop :=
  input.normalizedWriteClass rt ∉ remoteWriteClasses ∨ input.executes = true

theorem pathDecision_untouched_iff :
    (∃ pd, input.pathDecision host = .ok pd ∧ pd.protectedPathTouched = false) ↔
      PathsSpared host input := by
  have hpolicy : withProtectedPathDefaults (input.normalizedProtectedPolicy host).asPolicy =
      input.normalizedProtectedPolicy host := withProtectedPathDefaults_asPolicy _
  have hiff := protectedPathDecision_untouched_iff input.effectivePaths
    (input.normalizedProtectedPolicy host).asPolicy
  rw [hpolicy] at hiff
  unfold PathsSpared
  rw [← hiff]
  constructor
  · intro hcase
    obtain ⟨pd, hpd, ht⟩ := hcase
    rcases protectedPathDecision_cases hpd with rfl | ⟨matched, rfl⟩
    · exact hpd
    · cases ht
  · intro h
    exact ⟨untouched, h, rfl⟩

/-- The class is allowed for the paths as decided exactly when there is a grant. -/
theorem grant_iff :
    Grant rt host input ↔ ∃ pd, input.pathDecision host = .ok pd ∧
      allowedByClass input.normalizedMode (input.modePolicy host) (input.normalizedWriteClass rt)
        pd.protectedPathTouched = true := by
  simp only [allowedByClass_iff]
  constructor
  · intro h
    rcases h with ⟨hc, pd, hpd⟩ | ⟨hm, hc, hf, pd, hpd⟩ | ⟨hm, hc, hf, hp⟩ | ⟨hm, hc, hf, hp⟩
    · exact ⟨pd, hpd, Or.inl hc⟩
    · exact ⟨pd, hpd, Or.inr ⟨hm, Or.inl ⟨hc, hf⟩⟩⟩
    · obtain ⟨pd, hpd, ht⟩ := (pathDecision_untouched_iff host input).mpr hp
      exact ⟨pd, hpd, Or.inr ⟨hm, Or.inr ⟨ht, Or.inl ⟨hc, hf⟩⟩⟩⟩
    · obtain ⟨pd, hpd, ht⟩ := (pathDecision_untouched_iff host input).mpr hp
      exact ⟨pd, hpd, Or.inr ⟨hm, Or.inr ⟨ht, Or.inr ⟨hc, hf⟩⟩⟩⟩
  · intro h
    obtain ⟨pd, hpd, hc | ⟨hm, ⟨hc, hf⟩ | ⟨ht, ⟨hc, hf⟩ | ⟨hc, hf⟩⟩⟩⟩ := h
    · exact .report hc ⟨pd, hpd⟩
    · exact .checkRun hm hc hf ⟨pd, hpd⟩
    · exact .repair hm hc hf ((pathDecision_untouched_iff host input).mp ⟨pd, hpd, ht⟩)
    · exact .quarantine hm hc hf ((pathDecision_untouched_iff host input).mp ⟨pd, hpd, ht⟩)

/-! ## What is answered -/

/-- Every other verdict is a denial. -/
theorem verdict_allow_iff (allowed : Bool) (pd : PathDecision) :
    (if allowed then WriteVerdict.allow
      else if pd.protectedPathTouched then
        if pd.matchedProtectedClass = some (.text "governance-registries") then
          .requiresGovernanceReview
        else .denyProtectedPath
      else .deny) = .allow ↔ allowed = true := by
  cases allowed with
  | true => simp
  | false =>
      simp only [Bool.false_eq_true, if_false, iff_false]
      split
      · split <;> simp
      · simp

/-- A decision is reached once the paths are decided, and its outcome is this. -/
theorem decideWrite_spec {pd : PathDecision} (hpd : input.pathDecision host = .ok pd) :
    ∃ d, decideWrite rt host input = .ok d ∧
      (d.decision = .allow ↔ input.emergency host = false ∧
        allowedByClass input.normalizedMode (input.modePolicy host)
          (input.normalizedWriteClass rt) pd.protectedPathTouched = true) ∧
      (d.write_allowed = true ↔ d.decision = .allow ∧ Executable rt input) ∧
      (d.decision = .allow → d.dry_run = !input.executes) := by
  have hrun : decideWrite rt host input = (input.pathDecision host >>= _) := rfl
  rw [hrun, hpd]
  cases he : input.emergency host with
  | true => exact ⟨_, rfl, by simp, by simp, by simp⟩
  | false =>
      generalize hallowed : allowedByClass input.normalizedMode (input.modePolicy host)
        (input.normalizedWriteClass rt) pd.protectedPathTouched = allowed
      refine ⟨_, rfl, ?_, ?_, fun _ => rfl⟩
      · simp only [verdict_allow_iff, hallowed, true_and]
      · simp only [verdict_allow_iff, hallowed]
        simp [Executable]

/-- What was answered, and for which decision about the paths. -/
theorem decideWrite_ok {d : WriteDecision} (hd : decideWrite rt host input = .ok d) :
    ∃ pd, input.pathDecision host = .ok pd ∧
      (d.decision = .allow ↔ input.emergency host = false ∧
        allowedByClass input.normalizedMode (input.modePolicy host)
          (input.normalizedWriteClass rt) pd.protectedPathTouched = true) ∧
      (d.write_allowed = true ↔ d.decision = .allow ∧ Executable rt input) ∧
      (d.decision = .allow → d.dry_run = !input.executes) := by
  have hrun : decideWrite rt host input = (input.pathDecision host >>= _) := rfl
  have hpaths := hd
  rw [hrun, bind_eq_ok] at hpaths
  obtain ⟨pd, hpd, _⟩ := hpaths
  obtain ⟨d', hd', hspec⟩ := decideWrite_spec rt host input hpd
  obtain rfl := Except.ok.inj (hd'.symm.trans hd)
  exact ⟨pd, hpd, hspec⟩

/-- The decision is to allow exactly when nothing stops the actuator and there is a grant. -/
theorem allow_iff :
    (∃ d, decideWrite rt host input = .ok d ∧ d.decision = .allow) ↔
      input.emergency host = false ∧ Grant rt host input := by
  rw [grant_iff]
  constructor
  · intro h
    obtain ⟨d, hd, ha⟩ := h
    obtain ⟨pd, hpd, hallow, _⟩ := decideWrite_ok rt host input hd
    obtain ⟨he, hc⟩ := hallow.mp ha
    exact ⟨he, pd, hpd, hc⟩
  · intro h
    obtain ⟨he, pd, hpd, hc⟩ := h
    obtain ⟨d, hd, hallow, _⟩ := decideWrite_spec rt host input hpd
    exact ⟨d, hd, hallow.mpr ⟨he, hc⟩⟩

/-- The stop is the reason of a denial exactly when it is active. -/
theorem stopped_iff {d : WriteDecision} (hd : decideWrite rt host input = .ok d) :
    d.decision = .denyWriteDisabled ↔ input.emergency host = true := by
  have hrun : decideWrite rt host input = (input.pathDecision host >>= _) := rfl
  rw [hrun, bind_eq_ok] at hd
  obtain ⟨pd, _, hd⟩ := hd
  cases he : input.emergency host with
  | true =>
      rw [he] at hd
      cases hd
      simp
  | false =>
      rw [he] at hd
      cases hd
      simp only [Bool.false_eq_true, iff_false]
      split
      · simp
      split
      · split <;> simp
      · simp

/-- And what is allowed may write exactly when it is executable. -/
theorem write_allowed_iff :
    (∃ d, decideWrite rt host input = .ok d ∧ d.write_allowed = true) ↔
      input.emergency host = false ∧ Grant rt host input ∧ Executable rt input := by
  rw [← and_assoc, ← allow_iff]
  constructor
  · intro h
    obtain ⟨d, hd, hw⟩ := h
    obtain ⟨_, _, _, hwrite, _⟩ := decideWrite_ok rt host input hd
    obtain ⟨ha, hexec⟩ := hwrite.mp hw
    exact ⟨⟨d, hd, ha⟩, hexec⟩
  · intro h
    obtain ⟨⟨d, hd, ha⟩, hexec⟩ := h
    obtain ⟨_, _, _, hwrite, _⟩ := decideWrite_ok rt host input hd
    exact ⟨d, hd, hwrite.mpr ⟨ha, hexec⟩⟩

/-! ## Dry runs -/

/-- A repair is open: nothing stops it, its mode admits it and its paths are spared. -/
structure RepairOpen : Prop where
  running : input.emergency host = false
  mode : input.normalizedMode ≠ "audit"
  class_ : Text.includes (input.normalizedWriteClass rt) "PROJECTION_REPAIR" = true
  flag : RepairMode input.normalizedMode (input.modePolicy host)
  paths : PathsSpared host input

/-- No write outside the reports is authorised unless the caller executes it. -/
def DryRunSafe : Prop :=
  ∀ d, decideWrite rt host input = .ok d → d.write_allowed = true →
    input.normalizedWriteClass rt ∉ reportClasses → input.executes = true ∧ d.dry_run = false

/-- What may write is reported as a dry run exactly when it is one. -/
theorem dry_run_of_write {d : WriteDecision} (hd : decideWrite rt host input = .ok d)
    (hw : d.write_allowed = true) : d.dry_run = !input.executes := by
  obtain ⟨_, _, _, hwrite, hdry⟩ := decideWrite_ok rt host input hd
  exact hdry (hwrite.mp hw).1

/-- A dry run authorises exactly the open repairs under a name other than the one on
the list of remote classes. -/
theorem dryRunSafe_iff :
    DryRunSafe rt host input ↔ input.executes = true ∨ ¬ RepairOpen rt host input ∨
      input.normalizedWriteClass rt = "PROJECTION_REPAIR_BRANCH" := by
  constructor
  · intro hsafe
    by_contra hcon
    simp only [not_or, not_not] at hcon
    obtain ⟨hx, hopen, hname⟩ := hcon
    have hlocal : input.normalizedWriteClass rt ∉ remoteWriteClasses :=
      fun hm => hname ((repair_remote_iff hopen.class_).mp hm)
    obtain ⟨d, hd, hw⟩ := (write_allowed_iff rt host input).mpr ⟨hopen.running,
      .repair hopen.mode hopen.class_ hopen.flag hopen.paths, Or.inl hlocal⟩
    have hreport : input.normalizedWriteClass rt ∉ reportClasses :=
      fun hm => (repair_not_listed hopen.class_).1 (List.mem_cons_of_mem _ hm)
    exact hx (hsafe d hd hw hreport).1
  · intro hcond d hd hw hreport
    obtain ⟨hrun, hgrant, hexec⟩ := (write_allowed_iff rt host input).mp ⟨d, hd, hw⟩
    have hx : input.executes = true := by
      rcases hexec with hlocal | hx
      · rcases hgrant with ⟨hc, _⟩ | ⟨_, hc, _, _⟩ | ⟨hm, hc, hf, hp⟩ | ⟨_, hc, _, _⟩
        · exact absurd hc hreport
        · exact absurd (by rw [hc]; decide) hlocal
        · rcases hcond with hx | hclosed | hname
          · exact hx
          · exact absurd ⟨hrun, hm, hc, hf, hp⟩ hclosed
          · exact absurd ((repair_remote_iff hc).mpr hname) hlocal
        · exact absurd (by rw [hc]; decide) hlocal
      · exact hx
    exact ⟨hx, by rw [dry_run_of_write rt host input hd hw, hx]; rfl⟩

/-! ## Protected paths -/

/-- The paths given in any of the four fields. -/
def suppliedPaths : List String :=
  input.targetPath.toList ++ input.target_path.toList ++ input.changedPaths.getD [] ++
    input.changed_paths.getD []

/-- A quarantine issue is open, on the same terms as a repair. -/
structure QuarantineOpen : Prop where
  running : input.emergency host = false
  mode : input.normalizedMode ≠ "audit"
  class_ : input.normalizedWriteClass rt = "QUARANTINE_ISSUE"
  flag : input.modePolicy host "may_open_quarantine_issue" = some true
  paths : PathsSpared host input

/-- A supplied path that some class protects forbids every write but a check run. -/
def ProtectionDominates : Prop :=
  ∀ d, decideWrite rt host input = .ok d →
    (∃ p ∈ suppliedPaths input, Protects (input.normalizedProtectedPolicy host) p) →
    input.normalizedWriteClass rt ∉ "CHECK_RUN" :: reportClasses → d.write_allowed = false

/-- Protection gives way exactly when the protected path stands in a field that the
decision does not look at, and the write is open for the paths it does look at. -/
theorem protectionDominates_iff :
    ProtectionDominates rt host input ↔
      (∀ p ∈ suppliedPaths input, ¬ Protects (input.normalizedProtectedPolicy host) p) ∨
        ¬ (RepairOpen rt host input ∨ QuarantineOpen rt host input) ∨ ¬ Executable rt input := by
  constructor
  · intro hdom
    by_contra hcon
    rw [not_or, not_or, not_not, not_not] at hcon
    obtain ⟨hsupplied, hopen, hexec⟩ := hcon
    simp only [not_forall, not_not] at hsupplied
    obtain ⟨p, hp, hprot⟩ := hsupplied
    have hgrant : input.emergency host = false ∧ Grant rt host input := by
      rcases hopen with ⟨hr, hm, hc, hf, hpaths⟩ | ⟨hr, hm, hc, hf, hpaths⟩
      · exact ⟨hr, .repair hm hc hf hpaths⟩
      · exact ⟨hr, .quarantine hm hc hf hpaths⟩
    have hclass : input.normalizedWriteClass rt ∉ "CHECK_RUN" :: reportClasses := by
      rcases hopen with ⟨_, _, hc, _, _⟩ | ⟨_, _, hc, _, _⟩
      · exact (repair_not_listed hc).1
      · rw [hc]
        decide
    obtain ⟨d, hd, hw⟩ := (write_allowed_iff rt host input).mpr ⟨hgrant.1, hgrant.2, hexec⟩
    rw [hdom d hd ⟨p, hp, hprot⟩ hclass] at hw
    cases hw
  · intro hcond d hd hprot hclass
    by_contra hw
    rw [Bool.not_eq_false] at hw
    obtain ⟨hrun, hgrant, hexec⟩ := (write_allowed_iff rt host input).mp ⟨d, hd, hw⟩
    have hopen : RepairOpen rt host input ∨ QuarantineOpen rt host input := by
      rcases hgrant with ⟨hc, _⟩ | ⟨_, hc, _, _⟩ | ⟨hm, hc, hf, hp⟩ | ⟨hm, hc, hf, hp⟩
      · exact absurd (List.mem_cons_of_mem _ hc) hclass
      · exact absurd (by rw [hc]; simp) hclass
      · exact Or.inl ⟨hrun, hm, hc, hf, hp⟩
      · exact Or.inr ⟨hrun, hm, hc, hf, hp⟩
    rcases hcond with hnone | hclosed | hnot
    · obtain ⟨p, hp, hpr⟩ := hprot
      exact hnone p hp hpr
    · exact hclosed hopen
    · exact hnot hexec

/-! ## Modes -/

/-- What the flags of the selected mode say about an allowed write. -/
structure ModeAdmits : Prop where
  checkRun : input.normalizedWriteClass rt = "CHECK_RUN" →
    input.modePolicy host "may_emit_check_runs" = some true
  repair : Text.includes (input.normalizedWriteClass rt) "PROJECTION_REPAIR" = true →
    input.modePolicy host "may_open_projection_repair_pr" = some true
  quarantine : input.normalizedWriteClass rt = "QUARANTINE_ISSUE" →
    input.modePolicy host "may_open_quarantine_issue" = some true
  known : input.normalizedWriteClass rt ∈ "QUARANTINE_ISSUE" :: "CHECK_RUN" :: reportClasses ∨
    Text.includes (input.normalizedWriteClass rt) "PROJECTION_REPAIR" = true

/-- Only what the selected mode admits is allowed. -/
def PolicyAuthoritative : Prop :=
  ∀ d, decideWrite rt host input = .ok d → d.decision = .allow → ModeAdmits rt host input

/-- The mode's name opens a repair on its own: the policy is obeyed except by an open
repair whose flag is not set. -/
theorem policyAuthoritative_iff :
    PolicyAuthoritative rt host input ↔ ¬ RepairOpen rt host input ∨
      input.modePolicy host "may_open_projection_repair_pr" = some true := by
  constructor
  · intro hauth
    by_contra hcon
    simp only [not_or, not_not] at hcon
    obtain ⟨hopen, hflag⟩ := hcon
    obtain ⟨d, hd, ha⟩ := (allow_iff rt host input).mpr
      ⟨hopen.running, .repair hopen.mode hopen.class_ hopen.flag hopen.paths⟩
    exact hflag ((hauth d hd ha).repair hopen.class_)
  · intro hcond d hd ha
    obtain ⟨hrun, hgrant⟩ := (allow_iff rt host input).mp ⟨d, hd, ha⟩
    rcases hgrant with ⟨hc, _⟩ | ⟨_, hc, hf, _⟩ | ⟨hm, hc, hf, hp⟩ | ⟨_, hc, hf, _⟩
    · have hlisted : ∀ c ∈ reportClasses, c ≠ "CHECK_RUN" ∧ c ≠ "QUARANTINE_ISSUE" ∧
          Text.includes c "PROJECTION_REPAIR" ≠ true := by decide +kernel
      obtain ⟨hcheck, hquarantine, hrepair⟩ := hlisted _ hc
      exact ⟨fun h => absurd h hcheck, fun h => absurd h hrepair,
        fun h => absurd h hquarantine, Or.inl (by simp [hc])⟩
    · have hlisted : "CHECK_RUN" ≠ "QUARANTINE_ISSUE" ∧
          Text.includes "CHECK_RUN" "PROJECTION_REPAIR" ≠ true := by decide +kernel
      exact ⟨fun _ => hf, fun h => absurd (hc ▸ h) hlisted.2,
        fun h => absurd (hc.symm.trans h) hlisted.1, Or.inl (by simp [hc])⟩
    · obtain ⟨hcheck, hquarantine⟩ := repair_not_listed hc
      have hset : input.modePolicy host "may_open_projection_repair_pr" = some true := by
        rcases hcond with hclosed | hset
        · exact absurd ⟨hrun, hm, hc, hf, hp⟩ hclosed
        · exact hset
      exact ⟨fun h => absurd (by rw [h]; simp) hcheck, fun _ => hset,
        fun h => absurd h hquarantine, Or.inr hc⟩
    · have hlisted : "QUARANTINE_ISSUE" ≠ "CHECK_RUN" ∧
          Text.includes "QUARANTINE_ISSUE" "PROJECTION_REPAIR" ≠ true := by decide +kernel
      exact ⟨fun h => absurd (hc.symm.trans h) hlisted.1, fun h => absurd (hc ▸ h) hlisted.2,
        fun _ => hf, Or.inl (by simp [hc])⟩

end Requests

/-! ## Three requests under the shipped policies -/

/-- A process with the shipped policies and an empty environment. -/
def shippedHost : Host := ⟨fun _ => none, shipped⟩

theorem shippedHost_policy {input : DecideWriteInput}
    (h : input.protectedPathsPolicy.or input.protected_paths_policy = none) :
    input.normalizedProtectedPolicy shippedHost = shippedProtection := by
  rw [DecideWriteInput.normalizedProtectedPolicy, h]
  exact withProtectedPathDefaults_asPolicy protectedPathsFile

/-- Paths outside the shipped perimeter are spared. -/
theorem shippedHost_spares {input : DecideWriteInput}
    (h : input.protectedPathsPolicy.or input.protected_paths_policy = none)
    (hpaths : ∀ p ∈ input.effectivePaths, ¬ classPerimeter.Covers p) :
    PathsSpared shippedHost input := by
  intro p hp
  rw [shippedHost_policy h, shipped_spares_iff]
  exact hpaths p hp

/-- A repair pull request, as the planners ask for one. -/
def repairRequest : DecideWriteInput where
  mode := some "repair-projection"
  writeClass := some "PROJECTION_REPAIR_PR"
  targetPath := some "docs/operator.md"
  env := some (fun _ => none)

/-- It is authorised although nobody executes it. -/
theorem repairRequest_not_dryRunSafe : ¬ DryRunSafe .ascii shippedHost repairRequest := by
  intro hsafe
  obtain ⟨d, hd, hw⟩ := (write_allowed_iff .ascii shippedHost repairRequest).mpr
    ⟨by decide +kernel, .repair (by decide +kernel) (by decide +kernel) (by decide +kernel)
      (shippedHost_spares rfl (by decide +kernel)), Or.inl (by decide +kernel)⟩
  have hx := (hsafe d hd hw (by decide +kernel)).1
  revert hx
  decide

/-- A law file as the target, next to an empty list of changed paths. -/
def shadowedRequest : DecideWriteInput where
  mode := some "repair-projection"
  writeClass := some "PROJECTION_REPAIR_BRANCH"
  targetPath := some "law/v1.json"
  changedPaths := some []
  executeWrite := some true
  env := some (fun _ => none)

/-- The empty list hides the target, and the write is allowed. -/
theorem shadowedRequest_not_dominated : ¬ ProtectionDominates .ascii shippedHost shadowedRequest := by
  intro hdom
  obtain ⟨d, hd, hw⟩ := (write_allowed_iff .ascii shippedHost shadowedRequest).mpr
    ⟨by decide +kernel, .repair (by decide +kernel) (by decide +kernel) (by decide +kernel)
      (shippedHost_spares rfl (by decide +kernel)), Or.inr (by decide +kernel)⟩
  have hprot : Protects (shadowedRequest.normalizedProtectedPolicy shippedHost) "law/v1.json" := by
    rw [shippedHost_policy rfl, shipped_protects_iff]
    decide +kernel
  rw [hdom d hd ⟨"law/v1.json", by decide +kernel, hprot⟩ (by decide +kernel)] at hw
  cases hw

/-- A policy that closes repairs in the mode named after them. -/
def restrictedRequest : DecideWriteInput where
  mode := some "projection_repair"
  writeClass := some "PROJECTION_REPAIR_BRANCH"
  targetPath := some "docs/operator.md"
  permissionPolicy := some {
    modes := some (Record.ofList [("projection_repair", modePolicy true true false false false)]) }
  env := some (fun _ => none)

/-- The repair is allowed all the same. -/
theorem restrictedRequest_not_authoritative :
    ¬ PolicyAuthoritative .ascii shippedHost restrictedRequest := by
  intro hauth
  obtain ⟨d, hd, ha⟩ := (allow_iff .ascii shippedHost restrictedRequest).mpr
    ⟨by decide +kernel, .repair (by decide +kernel) (by decide +kernel) (by decide +kernel)
      (shippedHost_spares rfl (by decide +kernel))⟩
  have hflag := (hauth d hd ha).repair (by decide +kernel)
  revert hflag
  decide

end Admissorium.App.WriteDecision
