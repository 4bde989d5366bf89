import Admissorium.Scripts.ReleaseGate

/-!
# The readiness gate

The readiness artifact comes to its end exactly when its tree is ready for the eight steps, the
bundle's report is no directory and the artifact can be stored. After a bundle that came to its end,
no readiness artifact fails.
-/

namespace Admissorium.Scripts
set_option autoImplicit false

open JavaScript Json Files Signing ValidateObject Reports.JsonReport App.WebhookIntake

/-! ## The gate of the readiness artifact -/

def readinessReach (clocks : Clocks) (stamp : Instant) : Reach where
  names := readinessName :: (stepsReach clocks).names
  snapshots := (.readiness, stamp) :: (stepsReach clocks).snapshots

theorem usable_readinessReach (clocks : Clocks) (stamp : Instant) :
    (readinessReach clocks stamp).Usable := by
  have hnames : (readinessReach clocks stamp).names = readinessName :: ["v020-schema-validation",
      "v020-classifier-comparator", verdictReceiptSuite.name, quarantineRepairSuite.name,
      quarantineRepairSuite.name, operatorName, quarantineRepairSuite.name, operatorName,
      simulationName, "admissorium-v020-webhook-signature", batteryName] := rfl
  rw [Reach.Usable, hnames]
  decide +kernel

section Readiness
variable {m : Machine} {reach : Reach} {fs after : FileSystem} {schemas : List Schema}
  {clocks : Clocks} {own : Set Place} {npm : String → Fs Outcome} {stamp generated : Instant}
  {outcome : Outcome}

theorem ends_compileReadinessArtifact (h : Gated m schemas fs)
    (hruns : RunsScripts m clocks fs.cwd own npm) (husable : reach.Usable)
    (hnames : (readinessReach clocks stamp).names ⊆ reach.names)
    (hsnapshots : (readinessReach clocks stamp).snapshots ⊆ reach.snapshots) :
    Ends (Filed reach fs) (compileReadinessArtifact m npm stamp)
      (Ready m clocks schemas fs ∧ fs.node (currentPlace fs.cwd bundleName) ≠ some .dir ∧
        RoomFor fs readinessName .readiness stamp [readinessName ++ ".json", "manifest.json"]) := by
  obtain ⟨hname, hstepNames⟩ := List.cons_subset.mp hnames
  obtain ⟨hsnapshot, hstepSnapshots⟩ := List.cons_subset.mp hsnapshots
  have hzip : (gateIds.zip STEPS).map Prod.snd = STEPS := rfl
  refine ends_processCwd_bind (fun tree htree => htree.cwd) ?_
  refine (ends_steps h hruns husable hstepNames hstepSnapshots hzip).bind (fun steps => ?_)
  refine (ends_of_looks ?_ (fun tree htree => ?_)).bind (fun bundle => ?_)
  · refine looks_bind (fun _ _ _ hthere => existsSync_eq_ok hthere) (fun there => ?_)
    split
    · exact looks_bind (looks_readFileSync _) (fun _ _ _ _ hpure => (pure_eq_ok.mp hpure).2)
    · exact looks_bind (fun _ _ _ hpure => (pure_eq_ok.mp hpure).2)
        (fun _ _ _ _ hpure => (pure_eq_ok.mp hpure).2)
  · have hnamed : Named tree.cwd := htree.cwd ▸ h.hosted.named
    rw [← htree.free_iff (currentPlace_mem fs.cwd bundleName), ← htree.cwd]
    exact (@bundleGate_eq_ok_iff tree tree hnamed _).1
  · exact (ends_of_stores hname hsnapshot (stores_readinessTasks h.hosted.named)).bind_pure _

theorem report_mem_readiness {cwd : Place} (h : Named cwd) (gates : List Gate) :
    (currentPlace cwd readinessName, storedJson m (.obj (readinessArtifact m.rt gates))) ∈
      writtenBy cwd (readinessTasks m (cwdPath cwd) stamp gates) := by
  have hreport : resolve cwd (join [cwdPath cwd, "reports/current/admissorium-v020-readiness.json"]) =
      currentPlace cwd readinessName := resolve_rooted h _
  rw [← hreport]
  exact List.mem_cons_self

/-- What a run that comes to its end says is decided by the bundle that was there before. -/
theorem code_of_readiness (hruns : RunsScripts m clocks fs.cwd own npm) (hmains : Mains m fs.cwd)
    (hnamed : Named fs.cwd) (hrun : compileReadinessArtifact m npm stamp fs = .ok outcome after) :
    (outcome.code = 0 ↔ HoldsBundle fs) ∧ ∃ gates,
      after.text (currentPlace fs.cwd readinessName) =
        some (storedJson m (.obj (readinessArtifact m.rt gates))) ∧
      (failedGates gates = [] ↔ HoldsBundle fs) := by
  obtain ⟨root, start, hroot, hsteps⟩ := run_bind_eq_ok.mp hrun
  obtain ⟨rfl, rfl⟩ := processCwd_eq_ok.mp hroot
  obtain ⟨steps, between, hgates, hfile⟩ := run_bind_eq_ok.mp hsteps
  obtain ⟨bundle, looked, hbundle, hstore⟩ := run_bind_eq_ok.mp hfile
  obtain ⟨_, stored, htasks, hpure⟩ := run_bind_eq_ok.mp hstore
  obtain ⟨rfl, rfl⟩ := pure_eq_ok.mp hpure
  have hframed := (within_gates hruns).framed_of_ok rfl hgates
  have hcwd : between.cwd = start.cwd := hframed.cwd
  have htext : between.text (currentPlace start.cwd bundleName) =
      start.text (currentPlace start.cwd bundleName) :=
    hframed.text _ (bundlePlace_not_mem hruns)
  rw [← hcwd] at hnamed hbundle htasks htext ⊢
  obtain ⟨hpassed, rfl⟩ := (bundleGate_eq_ok_iff hnamed).2 bundle hbundle
  have hholds : HoldsBundle looked ↔ HoldsBundle start := by
    unfold HoldsBundle
    rw [← hcwd, htext]
  have hall : failedGates (steps ++ [bundle]) = [] ↔ HoldsBundle start := by
    rw [failedGates_eq_nil_iff, List.forall_mem_append, List.forall_mem_singleton, hpassed, hholds]
    exact and_iff_right (passed_of_gates hruns hmains rfl hgates)
  refine ⟨?_, steps ++ [bundle], ?_, hall⟩
  · rw [← hall, readinessOutcome, ← List.length_eq_zero_iff]
    split
    case isTrue hfailed => exact iff_of_false Nat.one_ne_zero (Nat.pos_iff_ne_zero.mp hfailed)
    case isFalse hfailed => exact iff_of_true rfl (Nat.eq_zero_of_not_pos hfailed)
  · exact (stores_readinessTasks hnamed).text_of_mem (by decide) htasks
      (report_mem_readiness hnamed _)

/-- A run of the readiness artifact comes to its end exactly if its tree is ready for the eight steps,
no directory is in the place of the bundle and there is room for the artifact. It exits with 0, and
the artifact it stores passes, exactly if a bundle that passes was there before. -/
theorem compileReadinessArtifact_exit_zero_iff (h : Gated m schemas fs)
    (hruns : RunsScripts m clocks fs.cwd own npm) :
    ((∃ outcome after, compileReadinessArtifact m npm stamp fs = .ok outcome after) ↔
      Ready m clocks schemas fs ∧ fs.node (currentPlace fs.cwd bundleName) ≠ some .dir ∧
        RoomFor fs readinessName .readiness stamp [readinessName ++ ".json", "manifest.json"]) ∧
    ∀ outcome after, compileReadinessArtifact m npm stamp fs = .ok outcome after →
      (outcome.code = 0 ↔ HoldsBundle fs) ∧ ∃ gates,
        after.text (currentPlace fs.cwd readinessName) =
          some (storedJson m (.obj (readinessArtifact m.rt gates))) ∧
        (failedGates gates = [] ↔ HoldsBundle fs) :=
  ⟨(ends_compileReadinessArtifact h hruns (usable_readinessReach _ _) (List.Subset.refl _)
      (List.Subset.refl _)).iff fs (Filed.refl fs),
    fun _ _ hrun => code_of_readiness hruns h.mains h.hosted.named hrun⟩

/-! ## The bundle and then the artifact -/

/-- The text of a bundle whose steps have passed holds the token. -/
theorem includes_bundleToken {rt : JavaScript.Runtime} {call : ReportCall} {steps : List StepResult}
    {current : List CurrentReport} (hpassed : ∀ step ∈ steps, step.passed = true)
    (hreport : call.report = .obj (bundleReport steps current)) :
    Text.includes (call.serialized rt) bundleToken = true := by
  have hstate : ("state", Value.str bundleToken) ∈ bundleReport steps current := by
    rw [bundleReport, failedSteps_eq_nil hpassed]
    exact List.mem_cons_of_mem _ List.mem_cons_self
  have hmember : ("report", call.report) ∈ call.envelope rt :=
    List.mem_append_left _ (List.mem_append_right _ (List.mem_cons_of_mem _
      (List.mem_cons_of_mem _ List.mem_cons_self)))
  refine Text.includes_append_left (includes_of_member hmember ?_ ?_) _
  · rw [hreport]
    exact Value.noConfusion
  · rw [hreport]
    refine includes_of_member hstate Value.noConfusion ?_
    show Text.includes (Json.quote bundleToken) bundleToken = true
    decide +kernel

/-- A run of the bundle that comes to its end leaves a bundle that passes. -/
theorem holdsBundle_of_run (hruns : RunsScripts m clocks fs.cwd own npm) (hmains : Mains m fs.cwd)
    (hnamed : Named fs.cwd) (hrun : writeReportBundle m npm stamp generated fs = .ok outcome after) :
    HoldsBundle after := by
  obtain ⟨steps, current, between, last, written, hsteps, _, _, _, _, _, htext⟩ :=
    bundleText_of_run hruns hnamed hrun
  exact ⟨_, htext, includes_bundleToken (allPassed_of_steps hruns hmains rfl hsteps).2 rfl⟩

theorem Gated.of_filed (h : Gated m schemas fs) (husable : reach.Usable)
    (hfiled : Filed reach fs after) : Gated m schemas after :=
  ⟨hfiled.cwd ▸ h.mains, h.numerals, h.digest, h.hosted.of_filed husable hfiled,
    hfiled.holdsSchemas h.described⟩

/-- After a bundle that came to its end, the readiness artifact comes to its end exactly if its own
directories have room and the tree before the bundle was ready at its own times; and then it exits
with 0. -/
theorem readiness_passes_after_bundle (h : Gated m schemas fs)
    (hruns : RunsScripts m clocks fs.cwd own npm)
    (hbundle : writeReportBundle m npm stamp generated fs = .ok outcome after) :
    ∀ clocks' own' npm' stamp', RunsScripts m clocks' fs.cwd own' npm' →
      ((∃ out last, compileReadinessArtifact m npm' stamp' after = .ok out last) ↔
        Ready m clocks' schemas fs ∧
          RoomFor fs readinessName .readiness stamp' [readinessName ++ ".json", "manifest.json"]) ∧
      ∀ out last, compileReadinessArtifact m npm' stamp' after = .ok out last → out.code = 0 := by
  intro clocks' own' npm' stamp' hruns'
  have hholds := holdsBundle_of_run hruns h.mains h.hosted.named hbundle
  have husable : Reach.Usable ⟨readinessName :: (bundleReach clocks stamp).names,
      (bundleReach clocks stamp).snapshots ++ (readinessReach clocks' stamp').snapshots⟩ :=
    List.forall_mem_cons.mpr ⟨by decide +kernel, usable_bundleReach clocks stamp⟩
  have hfirst := @ends_writeReportBundle m ⟨readinessName :: (bundleReach clocks stamp).names,
    (bundleReach clocks stamp).snapshots ++ (readinessReach clocks' stamp').snapshots⟩ fs schemas
    clocks own npm stamp generated h hruns husable (List.subset_cons_self _ _)
    (List.subset_append_left _ _)
  have hsecond := @ends_compileReadinessArtifact m
    ⟨readinessName :: (bundleReach clocks stamp).names,
      (bundleReach clocks stamp).snapshots ++ (readinessReach clocks' stamp').snapshots⟩ fs schemas
    clocks' own' npm' stamp' h hruns' husable
    (List.cons_subset_cons _ (List.subset_cons_self bundleName (stepsReach clocks').names))
    (List.subset_append_right _ _)
  have hfiled := hfirst.keeps fs outcome after (Filed.refl fs) hbundle
  have hfree : fs.node (currentPlace fs.cwd bundleName) ≠ some .dir := by
    rw [← hfiled.free_iff (currentPlace_mem fs.cwd bundleName), ← hfiled.cwd]
    obtain ⟨text, htext, _⟩ := hholds
    rw [FileSystem.text_eq_some_iff] at htext
    rw [htext]
    simp
  refine ⟨?_, fun out last hrun => ?_⟩
  · rw [hsecond.iff after hfiled]
    exact and_congr_right (fun _ => and_iff_right hfree)
  · have hgated := h.of_filed husable hfiled
    exact (code_of_readiness (hfiled.cwd ▸ hruns') hgated.mains hgated.hosted.named hrun).1.mpr
      hholds

end Readiness

/-- The artifact comes to its end on it too, and fails for want of a bundle. -/
theorem compileReadinessArtifact_exit_zero_iff_readyTree : ∃ outcome after,
    compileReadinessArtifact readyMachine readyNpm epoch readyTree = .ok outcome after ∧
      outcome.code ≠ 0 := by
  obtain ⟨hends, hcode⟩ := @compileReadinessArtifact_exit_zero_iff readyMachine readyTree _
    readyClocks ∅ readyNpm epoch gated_readyTree runsScripts_readyNpm
  have hnone : readyTree.node (currentPlace readyTree.cwd bundleName) = none := node_readyCurrent _
  obtain ⟨outcome, after, hrun⟩ := hends.mpr
    ⟨ready_readyTree, by rw [hnone]; simp, room_readyTree _ _ _⟩
  refine ⟨outcome, after, hrun, fun hzero => ?_⟩
  obtain ⟨text, htext, _⟩ := (hcode outcome after hrun).1.mp hzero
  rw [FileSystem.text_eq_some_iff, hnone] at htext
  cases htext

/-- After the bundle, the artifact passes. -/
theorem readiness_passes_after_bundle_readyTree : ∃ first between outcome after,
    writeReportBundle readyMachine readyNpm epoch epoch readyTree = .ok first between ∧
      compileReadinessArtifact readyMachine readyNpm epoch between = .ok outcome after ∧
      outcome.code = 0 := by
  obtain ⟨first, between, hbundle, _⟩ := ends_readyTree
  obtain ⟨hends, hcode⟩ := @readiness_passes_after_bundle readyMachine readyTree between _
    readyClocks ∅ readyNpm epoch epoch first gated_readyTree runsScripts_readyNpm hbundle readyClocks
    ∅ readyNpm epoch runsScripts_readyNpm
  obtain ⟨outcome, after, hrun⟩ := hends.mpr ⟨ready_readyTree, room_readyTree _ _ _⟩
  exact ⟨first, between, outcome, after, hbundle, hrun, hcode outcome after hrun⟩

end Admissorium.Scripts
