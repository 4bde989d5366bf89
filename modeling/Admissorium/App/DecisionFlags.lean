import Admissorium.App.WriteDecision

/-!
# The flags next to a write decision

`decideWrite` computes a flag for each class of remote writes and then overrides the
decision twice, for audit mode and for protected paths. The early return of a stopped
actuator clears the flags; the two overrides leave them as they were. So a flag
contradicts the decision exactly where an override hits a class whose flag is set
(`flagsAgree_iff`); `write_allowed` never does.
-/
namespace Admissorium.App.DecisionFlags
set_option autoImplicit false

open JavaScript Policies Permissions WriteDecision

/-- Every granting field of an answer comes with an `ALLOW`. -/
structure Consistent (d : Permissions.WriteDecision) : Prop where
  check_run : d.check_run_write_allowed = true → d.decision = .allow
  projection_repair : d.projection_repair_allowed = true → d.decision = .allow
  quarantine_issue : d.quarantine_issue_allowed = true → d.decision = .allow
  write : d.write_allowed = true → d.decision = .allow

variable (rt : Runtime) (host : Host) (input : DecideWriteInput)

/-- No answer to the request contradicts itself. -/
def FlagsAgree : Prop :=
  ∀ d, decideWrite rt host input = .ok d → Consistent d

/-- A class flag is set although the class is not allowed. -/
def Overridden (mode : String) (modePolicy : ModePolicy) (writeClass : String)
    (review : Bool) : Prop :=
  mode = "audit" ∧ writeClass = "CHECK_RUN" ∧ modePolicy "may_emit_check_runs" = some true ∨
    mode = "audit" ∧ Text.includes writeClass "PROJECTION_REPAIR" = true ∧ review = false ∨
    (mode = "audit" ∨ review = true) ∧ writeClass = "QUARANTINE_ISSUE" ∧
      modePolicy "may_open_quarantine_issue" = some true

section Classes

variable (mode : String) (modePolicy : ModePolicy) (writeClass : String) (review : Bool)

theorem checkRunWriteAllowed_iff : checkRunWriteAllowed modePolicy writeClass = true ↔
    writeClass = "CHECK_RUN" ∧ modePolicy "may_emit_check_runs" = some true := by
  simp [Permissions.checkRunWriteAllowed, and_comm]

theorem quarantineIssueAllowed_iff : quarantineIssueAllowed modePolicy writeClass = true ↔
    writeClass = "QUARANTINE_ISSUE" ∧ modePolicy "may_open_quarantine_issue" = some true := by
  simp [Permissions.quarantineIssueAllowed, and_comm]

/-- Audit mode sets the repair flag by its name. -/
theorem projectionRepairAllowed_iff :
    projectionRepairAllowed mode modePolicy writeClass review = true ↔
      Text.includes writeClass "PROJECTION_REPAIR" = true ∧ review = false ∧
        (RepairMode mode modePolicy ∨ mode = "audit") := by
  simp only [Permissions.projectionRepairAllowed, isProjectionRepairWrite_eq, RepairMode, Bool.and_eq_true,
    Bool.or_eq_true, Bool.not_eq_true', decide_eq_true_eq, and_assoc]
  tauto

/-- A class with a flag of its own is none of the reports. -/
theorem flagged_not_report (hflag : writeClass = "CHECK_RUN" ∨ writeClass = "QUARANTINE_ISSUE" ∨
    Text.includes writeClass "PROJECTION_REPAIR" = true) : writeClass ∉ reportClasses := by
  rcases hflag with rfl | rfl | hrepair
  · decide
  · decide
  · exact fun hm => (repair_not_listed hrepair).1 (List.mem_cons_of_mem _ hm)

/-- A set flag whose class is not allowed has been overridden, and only then. -/
theorem overridden_iff :
    Overridden mode modePolicy writeClass review ↔
      (checkRunWriteAllowed modePolicy writeClass = true ∨
        projectionRepairAllowed mode modePolicy writeClass review = true ∨
        quarantineIssueAllowed modePolicy writeClass = true) ∧
      allowedByClass mode modePolicy writeClass review ≠ true := by
  rw [checkRunWriteAllowed_iff, projectionRepairAllowed_iff, quarantineIssueAllowed_iff,
    Ne, allowedByClass_iff]
  constructor
  · intro h
    obtain ⟨hm, hc, hf⟩ | ⟨hm, hc, hr⟩ | ⟨hover, hc, hf⟩ := h
    · refine ⟨Or.inl ⟨hc, hf⟩, ?_⟩
      have hreport := flagged_not_report writeClass (Or.inl hc)
      simp [hreport, hm]
    · refine ⟨Or.inr (Or.inl ⟨hc, hr, Or.inr hm⟩), ?_⟩
      have hreport := flagged_not_report writeClass (Or.inr (Or.inr hc))
      simp [hreport, hm]
    · refine ⟨Or.inr (Or.inr ⟨hc, hf⟩), ?_⟩
      have hreport := flagged_not_report writeClass (Or.inr (Or.inl hc))
      have hcheck : writeClass ≠ "CHECK_RUN" := by
        rw [hc]
        decide
      rcases hover with hm | hr
      · simp [hreport, hm]
      · simp [hreport, hcheck, hr]
  · intro h
    obtain ⟨hflag, hnot⟩ := h
    rw [not_or] at hnot
    obtain ⟨-, hnot⟩ := hnot
    obtain ⟨hc, hf⟩ | ⟨hc, hr, hm⟩ | ⟨hc, hf⟩ := hflag
    · have hm : mode = "audit" := by
        by_contra hm
        exact hnot ⟨hm, Or.inl ⟨hc, hf⟩⟩
      exact Or.inl ⟨hm, hc, hf⟩
    · have hm : mode = "audit" := by
        by_contra hne
        have hmode := hm.resolve_right hne
        exact hnot ⟨hne, Or.inr ⟨hr, Or.inl ⟨hc, hmode⟩⟩⟩
      exact Or.inr (Or.inl ⟨hm, hc, hr⟩)
    · have hover : mode = "audit" ∨ review = true := by
        by_contra hcon
        rw [not_or, Bool.not_eq_true] at hcon
        exact hnot ⟨hcon.1, Or.inr ⟨hcon.2, Or.inr ⟨hc, hf⟩⟩⟩
      exact Or.inr (Or.inr ⟨hover, hc, hf⟩)

end Classes

/-- The paths decide against one path at least. -/
def PathsTouched : Prop := ∃ pd, input.pathDecision host = .ok pd ∧ pd.protectedPathTouched = true

/-- A set flag that an override leaves standing. -/
inductive StrayFlag : Prop where
  | checkRun (mode : input.normalizedMode = "audit")
      (class_ : input.normalizedWriteClass rt = "CHECK_RUN")
      (flag : input.modePolicy host "may_emit_check_runs" = some true)
      (paths : PathsSpared host input ∨ PathsTouched host input)
  | repair (mode : input.normalizedMode = "audit")
      (class_ : Text.includes (input.normalizedWriteClass rt) "PROJECTION_REPAIR" = true)
      (paths : PathsSpared host input)
  | auditedQuarantine (mode : input.normalizedMode = "audit")
      (class_ : input.normalizedWriteClass rt = "QUARANTINE_ISSUE")
      (flag : input.modePolicy host "may_open_quarantine_issue" = some true)
      (paths : PathsSpared host input ∨ PathsTouched host input)
  | protectedQuarantine (class_ : input.normalizedWriteClass rt = "QUARANTINE_ISSUE")
      (flag : input.modePolicy host "may_open_quarantine_issue" = some true)
      (paths : PathsTouched host input)

theorem paths_decided_iff :
    PathsSpared host input ∨ PathsTouched host input ↔ ∃ pd, input.pathDecision host = .ok pd := by
  rw [← pathDecision_untouched_iff]
  constructor
  · intro h
    obtain ⟨pd, hpd, _⟩ | ⟨pd, hpd, _⟩ := h
    · exact ⟨pd, hpd⟩
    · exact ⟨pd, hpd⟩
  · intro h
    obtain ⟨pd, hpd⟩ := h
    cases ht : pd.protectedPathTouched with
    | false => exact Or.inl ⟨pd, hpd, ht⟩
    | true => exact Or.inr ⟨pd, hpd, ht⟩

theorem strayFlag_iff :
    StrayFlag rt host input ↔ ∃ pd, input.pathDecision host = .ok pd ∧
      Overridden input.normalizedMode (input.modePolicy host) (input.normalizedWriteClass rt)
        pd.protectedPathTouched := by
  constructor
  · intro h
    cases h with
    | checkRun hm hc hf hp =>
        obtain ⟨pd, hpd⟩ := (paths_decided_iff host input).mp hp
        exact ⟨pd, hpd, Or.inl ⟨hm, hc, hf⟩⟩
    | repair hm hc hp =>
        obtain ⟨pd, hpd, ht⟩ := (pathDecision_untouched_iff host input).mpr hp
        exact ⟨pd, hpd, Or.inr (Or.inl ⟨hm, hc, ht⟩)⟩
    | auditedQuarantine hm hc hf hp =>
        obtain ⟨pd, hpd⟩ := (paths_decided_iff host input).mp hp
        exact ⟨pd, hpd, Or.inr (Or.inr ⟨Or.inl hm, hc, hf⟩)⟩
    | protectedQuarantine hc hf hp =>
        obtain ⟨pd, hpd, ht⟩ := hp
        exact ⟨pd, hpd, Or.inr (Or.inr ⟨Or.inr ht, hc, hf⟩)⟩
  · intro h
    obtain ⟨pd, hpd, ⟨hm, hc, hf⟩ | ⟨hm, hc, ht⟩ | ⟨hm | ht, hc, hf⟩⟩ := h
    · exact .checkRun hm hc hf ((paths_decided_iff host input).mpr ⟨pd, hpd⟩)
    · exact .repair hm hc ((pathDecision_untouched_iff host input).mp ⟨pd, hpd, ht⟩)
    · exact .auditedQuarantine hm hc hf ((paths_decided_iff host input).mpr ⟨pd, hpd⟩)
    · exact .protectedQuarantine hc hf ⟨pd, hpd, ht⟩

/-- What the flags of an answer are, for decided paths. -/
theorem flags_of_decided {pd : PathDecision} (hpd : input.pathDecision host = .ok pd) :
    ∃ d, decideWrite rt host input = .ok d ∧
      (input.emergency host = true → d.check_run_write_allowed = false ∧
        d.projection_repair_allowed = false ∧ d.quarantine_issue_allowed = false) ∧
      (input.emergency host = false →
        d.check_run_write_allowed =
          checkRunWriteAllowed (input.modePolicy host) (input.normalizedWriteClass rt) ∧
        d.projection_repair_allowed = projectionRepairAllowed input.normalizedMode
          (input.modePolicy host) (input.normalizedWriteClass rt) pd.protectedPathTouched ∧
        d.quarantine_issue_allowed =
          quarantineIssueAllowed (input.modePolicy host) (input.normalizedWriteClass rt)) := by
  have hrun : decideWrite rt host input = (input.pathDecision host >>= _) := rfl
  rw [hrun, hpd]
  cases he : input.emergency host with
  | true => exact ⟨_, rfl, fun _ => ⟨rfl, rfl, rfl⟩, by simp⟩
  | false => exact ⟨_, rfl, by simp, fun _ => ⟨rfl, rfl, rfl⟩⟩

/-- The answer is consistent once the paths are decided, unless an override leaves a
flag standing. -/
theorem consistent_iff {pd : PathDecision} {d : Permissions.WriteDecision}
    (hpd : input.pathDecision host = .ok pd) (hd : decideWrite rt host input = .ok d) :
    Consistent d ↔ input.emergency host = true ∨
      ¬ Overridden input.normalizedMode (input.modePolicy host) (input.normalizedWriteClass rt)
        pd.protectedPathTouched := by
  obtain ⟨d₁, hd₁, hstopped, hrunning⟩ := flags_of_decided rt host input hpd
  obtain rfl := Except.ok.inj (hd₁.symm.trans hd)
  obtain ⟨d₂, hd₂, hallow, hwrite, _⟩ := decideWrite_spec rt host input hpd
  obtain rfl := Except.ok.inj (hd₂.symm.trans hd)
  have hwrote : d₂.write_allowed = true → d₂.decision = .allow := fun hw => (hwrite.mp hw).1
  cases he : input.emergency host with
  | true =>
      obtain ⟨hc, hp, hq⟩ := hstopped he
      refine iff_of_true ⟨?_, ?_, ?_, hwrote⟩ (Or.inl rfl)
      · intro h
        rw [hc] at h
        cases h
      · intro h
        rw [hp] at h
        cases h
      · intro h
        rw [hq] at h
        cases h
  | false =>
      obtain ⟨hc, hp, hq⟩ := hrunning he
      rw [he] at hallow
      simp only [true_and] at hallow
      rw [overridden_iff, ← hc, ← hp, ← hq, Ne, ← hallow]
      constructor
      · intro h
        refine Or.inr fun hover => hover.2 ?_
        rcases hover.1 with hflag | hflag | hflag
        · exact h.check_run hflag
        · exact h.projection_repair hflag
        · exact h.quarantine_issue hflag
      · intro h
        have hflags := h.resolve_left Bool.false_ne_true
        rw [not_and, not_not] at hflags
        exact ⟨fun hf => hflags (Or.inl hf), fun hf => hflags (Or.inr (Or.inl hf)),
          fun hf => hflags (Or.inr (Or.inr hf)), hwrote⟩

/-- The flags agree with the decision exactly when the actuator is stopped or no
override leaves a flag standing. -/
theorem flagsAgree_iff :
    FlagsAgree rt host input ↔ input.emergency host = true ∨ ¬ StrayFlag rt host input := by
  rw [strayFlag_iff]
  constructor
  · intro h
    by_contra hcon
    rw [not_or, not_not] at hcon
    obtain ⟨hrun, pd, hpd, hover⟩ := hcon
    obtain ⟨d, hd, _⟩ := decideWrite_spec rt host input hpd
    have hcases := (consistent_iff rt host input hpd hd).mp (h d hd)
    exact hcases.elim hrun fun hn => hn hover
  · intro h d hd
    obtain ⟨pd, hpd, _⟩ := decideWrite_ok rt host input hd
    refine (consistent_iff rt host input hpd hd).mpr (h.imp_right ?_)
    exact fun hn hover => hn ⟨pd, hpd, hover⟩

/-- A repair asked for without a mode, that is in audit mode. -/
def auditedRepair : DecideWriteInput where
  writeClass := some "PROJECTION_REPAIR"
  targetPath := some "docs/operator.md"
  env := some (fun _ => none)

/-- It is denied with its flag set. -/
theorem auditedRepair_contradicts : ¬ FlagsAgree .ascii shippedHost auditedRepair := by
  rw [flagsAgree_iff, not_or, not_not]
  exact ⟨by decide +kernel, .repair (by decide +kernel) (by decide +kernel)
    (shippedHost_spares rfl (by decide +kernel))⟩

end Admissorium.App.DecisionFlags
