import Admissorium.Reports.JsonReport
import Admissorium.Scripts.NpmSteps

/-!
# The report bundle

`v020/write-report-bundle` runs the eight steps, hashes every current report, and stores what it
has found with the report writer. A step either ends the whole run or passes where the two scripts
that only run as the main module are it, so that the bundle that says `FAIL` is never written there.
-/
namespace Admissorium.Scripts
set_option autoImplicit false

open JavaScript Json Files Signing Reports.JsonReport

/-! ## The script -/

/-- What the bundle keeps of a step, and what the step has printed. -/
structure StepResult where
  script : String
  expected_token : String
  passed : Bool
  output_sha256 : String
  output : String

def StepResult.fields (step : StepResult) : Fields :=
  [("script", .str step.script), ("expected_token", .str step.expected_token),
    ("passed", .bool step.passed), ("output_sha256", .str step.output_sha256)]

def runStep (m : Machine) (npm : String → Fs Outcome) (step : String × String) : Fs StepResult := do
  let output ← execFileSync ("npm run " ++ step.1) (npm step.1)
  return ⟨step.1, step.2, Text.includes output step.2, m.rt.sha256 output, output⟩

structure CurrentReport where
  file : String
  path : String
  sha256 : String

def CurrentReport.fields (report : CurrentReport) : Fields :=
  [("file", .str report.file), ("path", .str report.path), ("sha256", .str report.sha256)]

def hashReport (m : Machine) (dir file : String) : Fs CurrentReport := do
  let fullPath := join [dir, file]
  let text ← readFileSync fullPath
  return ⟨file, fullPath, m.rt.sha256 text⟩

def readCurrentReportHashes (m : Machine) : Fs (List CurrentReport) := do
  let cwd ← processCwd
  let dir := join [cwd, "reports", "current"]
  let there ← existsSync dir
  if there then do
    let files ← readJsonNames m dir
    files.mapM (hashReport m dir)
  else return []

def bundleName : String := "admissorium-v020-report-bundle"

def failedSteps (steps : List StepResult) : List StepResult := steps.filter (fun step => !step.passed)

def bundleReport (steps : List StepResult) (current : List CurrentReport) : Fields :=
  [("suite", .str "ADMISSORIUM_V020_REPORT_WRITERS_HISTORY_BINDING"),
    ("state", .str (if (failedSteps steps).length = 0 then "ADMISSORIUM_V020_REPORT_BUNDLE_PASS"
      else "ADMISSORIUM_V020_REPORT_BUNDLE_FAIL")),
    ("truth_warning", .str "NOT_TRUTH_SOURCE")] ++
  FORBIDDEN_TRUE_FLAGS.map (fun flag => (flag, .bool false)) ++
  [("total_steps", .num (steps.length : Nat)),
    ("passed_steps", .num (steps.length - (failedSteps steps).length : Nat)),
    ("failed_steps", .num ((failedSteps steps).length : Nat)),
    ("current_report_count", .num (current.length : Nat)),
    ("current_reports", .arr (current.map (fun report => .obj report.fields))),
    ("steps", .arr (steps.map (fun step => .obj step.fields))),
    ("history_snapshot_binding", .bool true), ("report_only_before_writer", .bool true)]

/-- The report writer names a run after the clock, which it reads once more for the envelope. -/
def bundleCall (root : String) (stamp generated : Instant) (steps : List StepResult)
    (current : List CurrentReport) : ReportCall where
  name := bundleName
  report := .obj (bundleReport steps current)
  rootDir := root
  runId := Instant.dashed stamp.toISOString
  generated_at := generated.toISOString

def bundleCounts (steps : List StepResult) (current : List CurrentReport)
    (payload_hash_sha256 : Value) : Fields :=
  picked ["total_steps", "passed_steps", "failed_steps", "current_report_count"]
    (bundleReport steps current) ++ [("payload_hash_sha256", payload_hash_sha256)]

def bundleOutcome (m : Machine) (steps : List StepResult) (current : List CurrentReport)
    (written : WrittenReport) : Outcome :=
  let inherited := String.join (steps.map StepResult.output)
  if (failedSteps steps).length > 0 then ⟨inherited, 1⟩
  else ⟨inherited ++ printed m "ADMISSORIUM_V020_REPORT_BUNDLE_PASS=true"
    (bundleCounts steps current ((Value.obj written.envelope).get "payload_hash_sha256")), 0⟩

/-- `src/v020/write-report-bundle.js`. -/
def writeReportBundle (m : Machine) (npm : String → Fs Outcome) (stamp generated : Instant) :
    Fs Outcome := do
  let steps ← STEPS.mapM (runStep m npm)
  let current ← readCurrentReportHashes m
  let root ← processCwd
  let written ← writeJsonReport m.rt (bundleCall root stamp generated steps current)
  return bundleOutcome m steps current written

/-! ## The steps of a run -/

section Steps
variable {m : Machine} {npm : String → Fs Outcome} {clocks : Clocks} {cwd : Place} {own : Set Place}
  {fs after : FileSystem}

theorem within_runStep (h : RunsScripts m clocks cwd own npm) : ∀ step ∈ STEPS,
    Within cwd ((stepsReach clocks).places cwd ∪ own) (runStep m npm step) :=
  fun step hstep => within_bind (within_execFileSync (within_allSteps h step hstep))
    (fun _ => within_pure _)

theorem within_steps (h : RunsScripts m clocks cwd own npm) :
    Within cwd ((stepsReach clocks).places cwd ∪ own) (STEPS.mapM (runStep m npm)) :=
  within_mapM (within_runStep h)

/-- The result is the one of the step, and a step that comes to its end has passed. -/
structure Passed (step : String × String) (result : StepResult) : Prop where
  step : (result.script, result.expected_token) = step
  passed : result.passed = true

theorem passed_of_runStep (h : RunsScripts m clocks cwd own npm) (hmains : Mains m cwd)
    {step : String × String} {result : StepResult} (hstep : step ∈ STEPS) (hcwd : fs.cwd = cwd)
    (hrun : runStep m npm step fs = .ok result after) : Passed step result := by
  obtain ⟨output, between, hchild, hpure⟩ := run_bind_eq_ok.mp hrun
  obtain ⟨rfl, rfl⟩ := pure_eq_ok.mp hpure
  exact ⟨rfl, prints_step h hmains step hstep fs output _ hcwd (execFileSync_eq_ok.mp hchild)⟩

/-- The results are those of the eight steps, all of which have passed. -/
theorem allPassed_of_steps (h : RunsScripts m clocks cwd own npm) (hmains : Mains m cwd)
    {steps : List StepResult} (hcwd : fs.cwd = cwd)
    (hrun : STEPS.mapM (runStep m npm) fs = .ok steps after) :
    steps.map (fun step => (step.script, step.expected_token)) = STEPS ∧
      ∀ step ∈ steps, step.passed = true := by
  have hall : List.Forall₂ Passed STEPS steps :=
    forall₂_of_mapM (within_runStep h)
      (fun _ hstep _ _ _ hcwd hrun => passed_of_runStep h hmains hstep hcwd hrun) hcwd hrun
  constructor
  · have hmap := map_eq_of_forall₂ (g := fun step => step) hall (fun _ _ hp => hp.step)
    rw [List.map_id'] at hmap
    exact hmap
  · intro step hstep
    obtain ⟨item, _, hpassed⟩ := exists_of_forall₂_right hall hstep
    exact hpassed.passed

theorem failedSteps_eq_nil {steps : List StepResult} (h : ∀ step ∈ steps, step.passed = true) :
    failedSteps steps = [] := by
  rw [failedSteps, List.filter_eq_nil_iff]
  intro step hstep
  rw [h step hstep]
  decide

end Steps

/-! ## The places of a run -/

section Places
variable {cwd : Place} {name : String} {stamp generated : Instant} {steps : List StepResult}
  {current : List CurrentReport} {m : Machine} {fs after : FileSystem}

theorem resolve_rootCurrent (h : Named cwd) :
    resolve cwd (join [cwdPath cwd, "reports", "current"]) = currentDir cwd := by
  rw [resolve_join_cons cwd (cwdPath_ne_empty cwd), resolve_cwdPath cwd h]
  rfl

theorem hasNul_rootCurrent (h : Named cwd) :
    hasNul (join [cwdPath cwd, "reports", "current"]) = false := by
  refine hasNul_join_of_forall ?_
  simp only [List.forall_mem_cons, List.not_mem_nil, false_imp_iff, implies_true, and_true]
  exact ⟨hasNul_cwdPath h, by decide, by decide⟩

theorem currentPlace_bundleCall (h : Named fs.cwd) :
    (bundleCall (cwdPath fs.cwd) stamp generated steps current).currentPlace fs =
      currentDir fs.cwd := resolve_rootCurrent h

theorem historyPlace_bundleCall (h : Named fs.cwd) :
    (bundleCall (cwdPath fs.cwd) stamp generated steps current).historyPlace fs =
      snapshotPlace fs.cwd .reportBundle stamp := by
  have hname : bundleName ++ "-" ++ Instant.dashed stamp.toISOString =
      SnapshotKind.reportBundle.dirName stamp := rfl
  show resolve fs.cwd (join [cwdPath fs.cwd, "reports", "history",
    bundleName ++ "-" ++ Instant.dashed stamp.toISOString]) = _
  rw [hname, resolve_join_cons fs.cwd (cwdPath_ne_empty fs.cwd), resolve_cwdPath fs.cwd h,
    List.foldl_cons, List.foldl_cons, List.foldl_cons, List.foldl_nil, follow_name (isName_dirName _ _)]
  rfl

theorem validName_bundleName : validName bundleName = true := by decide

/-- The three files of a bundle. -/
theorem writes_bundleCall (h : Named fs.cwd) :
    (bundleCall (cwdPath fs.cwd) stamp generated steps current).writes m.rt fs =
      [(currentPlace fs.cwd bundleName,
          (bundleCall (cwdPath fs.cwd) stamp generated steps current).serialized m.rt),
        ((bundleName ++ ".json") :: snapshotPlace fs.cwd .reportBundle stamp,
          (bundleCall (cwdPath fs.cwd) stamp generated steps current).serialized m.rt),
        ("manifest.json" :: snapshotPlace fs.cwd .reportBundle stamp,
          (bundleCall (cwdPath fs.cwd) stamp generated steps current).manifestText m.rt)] := by
  rw [ReportCall.writes, currentPlace_bundleCall h, historyPlace_bundleCall h]
  rfl

/-- A child of a directory of many names is under the name it was listed with. -/
theorem resolve_rootReport (h : Named cwd) (hname : IsName name) :
    resolve cwd (join [join [cwdPath cwd, "reports", "current"], name]) = name :: currentDir cwd := by
  rw [resolve_join cwd (join_ne_empty _) hname, resolve_rootCurrent h]

end Places

/-! ## What a bundle says of the current reports -/

section Hashes
variable {m : Machine} {fs after : FileSystem} {current : List CurrentReport} {name : String}

/-- A directory as hosts have it. -/
structure Browsable (fs : FileSystem) (place : Place) : Prop where
  finite : {name | fs.node (name :: place) ≠ none}.Finite
  names : ∀ name, fs.node (name :: place) ≠ none → IsName name ∧ hasNul name = false

theorem Browsable.of_subset {place : Place} (h : Browsable after place)
    (hsub : ∀ name, fs.node (name :: place) ≠ none → after.node (name :: place) ≠ none) :
    Browsable fs place where
  finite := h.finite.subset hsub
  names := fun name hname => h.names name (hsub name hname)

/-- The entry is for a file of the current reports, with the hash of its text. -/
def Hashes (m : Machine) (fs : FileSystem) (name : String) (entry : CurrentReport) : Prop :=
  entry.file = name ∧ ∃ text, fs.text (name :: currentDir fs.cwd) = some text ∧
    entry.sha256 = m.rt.sha256 text

theorem looks_hashReport (dir file : String) : Looks (hashReport m dir file) :=
  looks_bind (looks_readFileSync _) (fun _ => fun _ _ _ h => (pure_eq_ok.mp h).2)

theorem hashes_of_hashReport (hnamed : Named fs.cwd) (hname : IsName name) {entry : CurrentReport}
    (h : hashReport m (join [cwdPath fs.cwd, "reports", "current"]) name fs = .ok entry after) :
    Hashes m fs name entry := by
  obtain ⟨text, between, hread, hpure⟩ := run_bind_eq_ok.mp h
  obtain ⟨⟨_, htext⟩, rfl⟩ := readFileSync_eq_ok.mp hread
  obtain ⟨rfl, _⟩ := pure_eq_ok.mp hpure
  rw [resolve_rootReport hnamed hname] at htext
  exact ⟨rfl, text, htext, rfl⟩

theorem looks_readCurrent : Looks (readCurrentReportHashes m) := by
  intro fs current after h
  obtain ⟨root, _, hroot, hlook⟩ := run_bind_eq_ok.mp h
  obtain ⟨rfl, rfl⟩ := processCwd_eq_ok.mp hroot
  obtain ⟨there, looked, hthere, hrest⟩ := run_bind_eq_ok.mp hlook
  obtain rfl := existsSync_eq_ok hthere
  cases there with
  | true =>
      have hlooks : Looks (readJsonNames m (join [cwdPath looked.cwd, "reports", "current"]) >>=
          fun files => files.mapM (hashReport m (join [cwdPath looked.cwd, "reports", "current"]))) :=
        looks_bind (fun _ _ _ hnames => (readJsonNames_eq_ok.mp hnames).2)
          (fun _ => fun _ _ _ hloop => ((mapM_looks_eq_ok (looks_hashReport _)).mp hloop).2)
      exact hlooks _ _ _ hrest
  | false => exact (pure_eq_ok.mp hrest).2

/-- Every entry is for a file that is there, and every file of the right name has an entry. -/
theorem hashes_of_readCurrent (hnamed : Named fs.cwd) (hbrowse : Browsable fs (currentDir fs.cwd))
    (h : readCurrentReportHashes m fs = .ok current after) :
    (∀ entry ∈ current, Hashes m fs entry.file entry) ∧
      ∀ name text, Text.endsWith name ".json" = true →
        fs.text (name :: currentDir fs.cwd) = some text → ∃ entry ∈ current, entry.file = name := by
  obtain ⟨root, _, hroot, hlook⟩ := run_bind_eq_ok.mp h
  obtain ⟨rfl, rfl⟩ := processCwd_eq_ok.mp hroot
  obtain ⟨there, looked, hthere, hrest⟩ := run_bind_eq_ok.mp hlook
  obtain rfl := existsSync_eq_ok hthere
  have hlisted := m.listing.mem_names _ _ hbrowse.finite
  cases there with
  | true =>
      obtain ⟨names, listed, hnames, hloop⟩ := run_bind_eq_ok.mp hrest
      obtain ⟨⟨_, _, rfl⟩, rfl⟩ := readJsonNames_eq_ok.mp hnames
      obtain ⟨hall, rfl⟩ := (mapM_looks_eq_ok (looks_hashReport _)).mp hloop
      rw [resolve_rootCurrent hnamed] at hall
      have hentry : ∀ name entry, name ∈ jsonNames (m.listing.names after (currentDir after.cwd)) →
          hashReport m (join [cwdPath after.cwd, "reports", "current"]) name after = .ok entry after →
          Hashes m after name entry := by
        intro name entry hname hread
        have hthere := (hlisted name).mp (mem_jsonNames.mp hname).1
        exact hashes_of_hashReport hnamed (hbrowse.names name hthere).1 hread
      refine ⟨fun entry hmem => ?_, fun name text hjson htext => ?_⟩
      · obtain ⟨name, hname, hread⟩ := exists_of_forall₂_right hall hmem
        have hhashes := hentry name entry hname hread
        rw [hhashes.1]
        exact hhashes
      · have hnode : after.node (name :: currentDir after.cwd) ≠ none :=
          node_ne_none_iff.mpr (Or.inr ⟨text, htext⟩)
        have hname := mem_jsonNames.mpr ⟨(hlisted name).mpr hnode, hjson⟩
        obtain ⟨entry, hmem, hread⟩ := exists_of_forall₂_left hall hname
        exact ⟨entry, hmem, (hentry name entry hname hread).1⟩
  | false =>
      obtain ⟨rfl, rfl⟩ := pure_eq_ok.mp hrest
      refine ⟨List.forall_mem_nil _, fun name text _ htext => ?_⟩
      have hnode : after.node (name :: currentDir after.cwd) ≠ none :=
        node_ne_none_iff.mpr (Or.inr ⟨text, htext⟩)
      have hdir : after.node (resolve after.cwd (join [cwdPath after.cwd, "reports", "current"])) =
          some .dir := by
        rw [resolve_rootCurrent hnamed]
        exact after.parent_dir name _ hnode
      rw [existsSync_of_dir (hasNul_rootCurrent hnamed) hdir, EStateM.Result.ok.injEq] at hthere
      exact absurd hthere.1 (by decide)

end Hashes

/-! ## Runs -/

section Runs
variable {m : Machine} {npm : String → Fs Outcome} {clocks : Clocks} {stamp generated : Instant}
  {cwd : Place} {own : Set Place} {fs after : FileSystem} {outcome : Outcome}

def bundleReach (clocks : Clocks) (stamp : Instant) : Reach where
  names := bundleName :: (stepsReach clocks).names
  snapshots := (.reportBundle, stamp) :: (stepsReach clocks).snapshots

theorem bundleName_not_mem (clocks : Clocks) : bundleName ∉ (stepsReach clocks).names := by
  have hnames : (stepsReach clocks).names = ["v020-schema-validation", "v020-classifier-comparator",
      verdictReceiptSuite.name, quarantineRepairSuite.name, quarantineRepairSuite.name, operatorName,
      quarantineRepairSuite.name, operatorName, simulationName,
      "admissorium-v020-webhook-signature", batteryName] := rfl
  rw [hnames]
  decide

/-- No step and no file of npm is in the place of the bundle. -/
theorem bundlePlace_not_mem (h : RunsScripts m clocks cwd own npm) :
    currentPlace cwd bundleName ∉ (stepsReach clocks).places cwd ∪ own := by
  rw [Set.mem_union, not_or, currentPlace_mem_iff]
  exact ⟨bundleName_not_mem clocks, h.not_mem (suffix_currentPlace cwd bundleName)⟩

theorem within_readCurrent {touched : Set Place} : Within cwd touched (readCurrentReportHashes m) := by
  refine within_processCwd_bind (within_bind (within_existsSync _) (fun _ => ?_))
  exact within_ite (within_bind (within_readJsonNames _) (fun _ => within_mapM (fun _ _ =>
    within_bind (within_readFileSync _) (fun _ => within_pure _)))) (within_pure _)

/-- The report writer reaches its three files. -/
theorem within_writeJsonReport {rt : Runtime} {call : ReportCall} {touched : Set Place}
    (hvalid : validName call.name = true)
    (h : ∀ fs : FileSystem, fs.cwd = cwd → ∀ write ∈ call.writes rt fs, write.1 ∈ touched) :
    Within cwd touched (writeJsonReport rt call) := by
  intro fs hcwd
  rcases wrote_left rt hvalid fs with ⟨_, hwrote⟩ | ⟨_, hwrote⟩
  · exact hwrote.framed.mono (fun _ hmem => absurd hmem List.not_mem_nil)
  · refine hwrote.framed.mono (fun place hmem => ?_)
    obtain ⟨write, hwrite, rfl⟩ := List.mem_map.mp hmem
    exact h fs hcwd write ((List.takeWhile_sublist _).subset hwrite)

theorem within_bundleWriter (hnamed : Named cwd) (steps : List StepResult)
    (current : List CurrentReport) :
    Within cwd (Reach.places cwd ⟨[bundleName], [(.reportBundle, stamp)]⟩)
      (writeJsonReport m.rt (bundleCall (cwdPath cwd) stamp generated steps current)) := by
  refine within_writeJsonReport validName_bundleName (fun fs hcwd => ?_)
  subst hcwd
  rw [writes_bundleCall hnamed]
  simp only [List.forall_mem_cons, List.not_mem_nil, false_imp_iff, implies_true, and_true]
  exact ⟨Or.inl ⟨_, List.mem_cons_self, Or.inl rfl⟩, Or.inr ⟨_, List.mem_cons_self, _, rfl⟩,
    Or.inr ⟨_, List.mem_cons_self, _, rfl⟩⟩

theorem within_writeReportBundle (h : RunsScripts m clocks cwd own npm) (hnamed : Named cwd) :
    Within cwd ((bundleReach clocks stamp).places cwd ∪ own)
      (writeReportBundle m npm stamp generated) := by
  have hsteps : (stepsReach clocks).places cwd ∪ own ⊆ (bundleReach clocks stamp).places cwd ∪ own :=
    Set.union_subset_union_left own
      (Reach.mono (List.subset_cons_self _ _) (List.subset_cons_self _ _))
  have hwriter : Reach.places cwd ⟨[bundleName], [(.reportBundle, stamp)]⟩ ⊆
      (bundleReach clocks stamp).places cwd ∪ own :=
    (Reach.mono (List.cons_subset.mpr ⟨List.mem_cons_self, List.nil_subset _⟩)
      (List.cons_subset.mpr ⟨List.mem_cons_self, List.nil_subset _⟩)).trans Set.subset_union_left
  exact within_bind ((within_steps h).mono hsteps) (fun steps =>
    within_bind within_readCurrent (fun current => within_processCwd_bind
      (within_bind ((within_bundleWriter hnamed steps current).mono hwriter)
        (fun _ => within_pure _))))

/-- After its steps and the hashes, a run is the writer and what is said of it. -/
theorem writeReportBundle_eq {steps : List StepResult} {current : List CurrentReport}
    {between last : FileSystem} (hsteps : STEPS.mapM (runStep m npm) fs = .ok steps between)
    (hcurrent : readCurrentReportHashes m between = .ok current last) :
    writeReportBundle m npm stamp generated fs =
      (writeJsonReport m.rt (bundleCall (cwdPath last.cwd) stamp generated steps current) >>=
        fun written => pure (bundleOutcome m steps current written)) last := by
  have hroot : processCwd last = .ok (cwdPath last.cwd) last := rfl
  rw [writeReportBundle, run_bind_of_ok hsteps, run_bind_of_ok hcurrent, run_bind_of_ok hroot]

/-- The writer stores the bundle first, if it stores anything. -/
theorem bundleText_left (hnamed : Named fs.cwd) (steps : List StepResult)
    (current : List CurrentReport) :
    (left (writeJsonReport m.rt (bundleCall (cwdPath fs.cwd) stamp generated steps current) fs)).text
        (currentPlace fs.cwd bundleName) = fs.text (currentPlace fs.cwd bundleName) ∨
      (left (writeJsonReport m.rt (bundleCall (cwdPath fs.cwd) stamp generated steps current) fs)).text
        (currentPlace fs.cwd bundleName) =
          some ((bundleCall (cwdPath fs.cwd) stamp generated steps current).serialized m.rt) := by
  have hvalid : validName (bundleCall (cwdPath fs.cwd) stamp generated steps current).name = true :=
    validName_bundleName
  rcases wrote_left m.rt hvalid fs with ⟨_, hwrote⟩ | ⟨_, hwrote⟩
  · exact Or.inl (hwrote.text_of_not_mem List.not_mem_nil)
  · rw [writes_bundleCall hnamed, List.takeWhile_cons] at hwrote
    split at hwrote
    case isTrue =>
      refine Or.inr (hwrote.text_of_last [] (fun hmem => ?_))
      obtain ⟨write, hwrite, hplace⟩ := List.mem_map.mp hmem
      have hlonger : ∀ write ∈ [((bundleName ++ ".json") :: snapshotPlace fs.cwd .reportBundle stamp,
            (bundleCall (cwdPath fs.cwd) stamp generated steps current).serialized m.rt),
          ("manifest.json" :: snapshotPlace fs.cwd .reportBundle stamp,
            (bundleCall (cwdPath fs.cwd) stamp generated steps current).manifestText m.rt)],
          (currentPlace fs.cwd bundleName).length < write.1.length := by
        simp [currentPlace, currentDir, snapshotPlace, historyDir]
      have hlength := hlonger write ((List.takeWhile_sublist _).subset hwrite)
      rw [hplace] at hlength
      omega
    case isFalse => exact Or.inl (hwrote.text_of_not_mem List.not_mem_nil)

/-- The bundle in the tree is one of the eight steps, all of which have passed. -/
def StoresPassed (m : Machine) (stamp generated : Instant) (fs : FileSystem) : Prop :=
  ∃ steps current, steps.map (fun step => (step.script, step.expected_token)) = STEPS ∧
    (∀ step ∈ steps, step.passed = true) ∧ fs.text (currentPlace fs.cwd bundleName) =
      some ((bundleCall (cwdPath fs.cwd) stamp generated steps current).serialized m.rt)

/-- What a run has stored once it comes to its end. -/
theorem bundleText_of_run (h : RunsScripts m clocks fs.cwd own npm) (hnamed : Named fs.cwd)
    (hrun : writeReportBundle m npm stamp generated fs = .ok outcome after) :
    ∃ steps current between last written, STEPS.mapM (runStep m npm) fs = .ok steps between ∧
      readCurrentReportHashes m between = .ok current between ∧
      Wrote between ((bundleCall (cwdPath between.cwd) stamp generated steps current).writes m.rt
        between) last ∧ after = last ∧ outcome = bundleOutcome m steps current written ∧
      between.cwd = fs.cwd ∧
      after.text (currentPlace after.cwd bundleName) =
        some ((bundleCall (cwdPath after.cwd) stamp generated steps current).serialized m.rt) := by
  obtain ⟨steps, between, hsteps, hread⟩ := run_bind_eq_ok.mp hrun
  obtain ⟨current, looked, hcurrent, hrest⟩ := run_bind_eq_ok.mp hread
  obtain ⟨root, last, hroot, hwrite⟩ := run_bind_eq_ok.mp hrest
  obtain ⟨written, stored, hwriter, hpure⟩ := run_bind_eq_ok.mp hwrite
  obtain ⟨rfl, rfl⟩ := pure_eq_ok.mp hpure
  obtain ⟨rfl, rfl⟩ := processCwd_eq_ok.mp hroot
  obtain rfl := looks_readCurrent _ _ _ hcurrent
  obtain ⟨_, _, hwrote⟩ := wrote_of_ok m.rt hwriter
  have hcwd : last.cwd = fs.cwd := ((within_steps h).framed_of_ok rfl hsteps).cwd
  rw [← hcwd] at hnamed
  refine ⟨steps, current, last, after, written, hsteps, hcurrent, hwrote, rfl, rfl, hcwd, ?_⟩
  rw [hwrote.cwd]
  rw [writes_bundleCall hnamed] at hwrote
  refine hwrote.text_of_last [] ?_
  simp [currentPlace, currentDir, snapshotPlace, historyDir]

/-- Once its steps have come to their end, a run leaves the bundle as it was or stores one of them. -/
theorem bundleText_of_steps (h : RunsScripts m clocks fs.cwd own npm) (hnamed : Named fs.cwd)
    {steps : List StepResult} {between : FileSystem}
    (hsteps : STEPS.mapM (runStep m npm) fs = .ok steps between) :
    (left (writeReportBundle m npm stamp generated fs)).text (currentPlace fs.cwd bundleName) =
        fs.text (currentPlace fs.cwd bundleName) ∨
      ∃ current, (left (writeReportBundle m npm stamp generated fs)).text
        (currentPlace fs.cwd bundleName) =
          some ((bundleCall (cwdPath fs.cwd) stamp generated steps current).serialized m.rt) := by
  have hframed := (within_steps h).framed_of_ok rfl hsteps
  have hread := @within_readCurrent m between.cwd ∅ between rfl
  cases hcurrent : readCurrentReportHashes m between with
  | error e last =>
      rw [hcurrent] at hread
      rw [writeReportBundle, run_bind_of_ok hsteps, run_bind_of_error hcurrent]
      exact Or.inl ((hread.text _ (Set.notMem_empty _)).trans
        (hframed.text _ (bundlePlace_not_mem h)))
  | ok current last =>
      rw [hcurrent] at hread
      have hcwd : last.cwd = fs.cwd := hread.cwd.trans hframed.cwd
      have htext := (hread.text _ (Set.notMem_empty _)).trans (hframed.text _ (bundlePlace_not_mem h))
      rw [← hcwd] at hnamed htext ⊢
      have hwritten := @bundleText_left m stamp generated last hnamed steps current
      have hleft : left (writeReportBundle m npm stamp generated fs) = left (writeJsonReport m.rt
          (bundleCall (cwdPath last.cwd) stamp generated steps current) last) := by
        rw [writeReportBundle_eq hsteps hcurrent]
        exact left_bind_pure _
      rw [hleft]
      exact hwritten.imp (fun hsame => hsame.trans htext) (fun hnew => ⟨current, hnew⟩)

/-- Where both scripts that only run as the main module are it: whether it returns or throws, a run
leaves the bundle as it was or stores one whose steps have all passed. A run that comes to its end
exits with 0 and has stored one; a step that does not exit with 0 makes the run throw, and leaves the
bundle as it was. -/
theorem bundle_never_fails (h : RunsScripts m clocks fs.cwd own npm) (hmains : Mains m fs.cwd)
    (hnamed : Named fs.cwd) :
    ((left (writeReportBundle m npm stamp generated fs)).text (currentPlace fs.cwd bundleName) =
        fs.text (currentPlace fs.cwd bundleName) ∨
      StoresPassed m stamp generated (left (writeReportBundle m npm stamp generated fs))) ∧
    (∀ outcome after, writeReportBundle m npm stamp generated fs = .ok outcome after →
      outcome.code = 0 ∧ StoresPassed m stamp generated after) ∧
    ∀ e between, STEPS.mapM (runStep m npm) fs = .error e between →
      writeReportBundle m npm stamp generated fs = .error e between ∧
        between.text (currentPlace fs.cwd bundleName) = fs.text (currentPlace fs.cwd bundleName) := by
  have hthrown : ∀ e between, STEPS.mapM (runStep m npm) fs = .error e between →
      writeReportBundle m npm stamp generated fs = .error e between ∧
        between.text (currentPlace fs.cwd bundleName) =
          fs.text (currentPlace fs.cwd bundleName) := by
    intro e between hsteps
    have hframed := within_steps h fs rfl
    rw [hsteps] at hframed
    exact ⟨by rw [writeReportBundle, run_bind_of_error hsteps],
      hframed.text _ (bundlePlace_not_mem h)⟩
  refine ⟨?_, fun outcome after hrun => ?_, hthrown⟩
  · cases hsteps : STEPS.mapM (runStep m npm) fs with
    | error e between =>
        obtain ⟨hrun, htext⟩ := hthrown e between hsteps
        rw [hrun]
        exact Or.inl htext
    | ok steps between =>
        obtain ⟨hlisted, hpassed⟩ := allPassed_of_steps h hmains rfl hsteps
        refine (bundleText_of_steps h hnamed hsteps).imp id (fun hstored => ?_)
        obtain ⟨current, htext⟩ := hstored
        have hcwd : (left (writeReportBundle m npm stamp generated fs)).cwd = fs.cwd :=
          (within_writeReportBundle h hnamed fs rfl).cwd
        refine ⟨steps, current, hlisted, hpassed, ?_⟩
        rw [hcwd]
        exact htext
  · obtain ⟨steps, current, between, last, written, hsteps, _, _, rfl, rfl, _, htext⟩ :=
      bundleText_of_run h hnamed hrun
    obtain ⟨hlisted, hpassed⟩ := allPassed_of_steps h hmains rfl hsteps
    refine ⟨?_, steps, current, hlisted, hpassed, htext⟩
    rw [bundleOutcome, failedSteps_eq_nil hpassed]
    rfl

/-- The reports that are current after a run are those the bundle lists, each with the hash of the
text it has, but for the bundle itself: its entry is for the one that was there before. -/
theorem bundle_binds_current (h : RunsScripts m clocks fs.cwd own npm) (hnamed : Named fs.cwd)
    (hrun : writeReportBundle m npm stamp generated fs = .ok outcome after)
    (hbrowse : Browsable after (currentDir after.cwd)) :
    ∃ steps current,
      after.text (currentPlace after.cwd bundleName) =
        some ((bundleCall (cwdPath after.cwd) stamp generated steps current).serialized m.rt) ∧
      (∀ entry ∈ current, entry.file ≠ bundleName ++ ".json" → Hashes m after entry.file entry) ∧
      (∀ entry ∈ current, entry.file = bundleName ++ ".json" → Hashes m fs entry.file entry) ∧
      ∀ name text, Text.endsWith name ".json" = true → name ≠ bundleName ++ ".json" →
        after.text (name :: currentDir after.cwd) = some text →
          ∃ entry ∈ current, entry.file = name := by
  obtain ⟨steps, current, between, last, written, hsteps, hcurrent, hwrote, rfl, _, hcwd, htext⟩ :=
    bundleText_of_run h hnamed hrun
  have hold : between.text (currentPlace fs.cwd bundleName) =
      fs.text (currentPlace fs.cwd bundleName) :=
    ((within_steps h).framed_of_ok rfl hsteps).text _ (bundlePlace_not_mem h)
  rw [← hcwd] at hnamed
  rw [hwrote.cwd] at hbrowse
  obtain ⟨hentries, hfiles⟩ := hashes_of_readCurrent hnamed
    (hbrowse.of_subset (fun name hnode => hwrote.node_ne_none hnode)) hcurrent
  have hkept : ∀ name, name ≠ bundleName ++ ".json" →
      after.text (name :: currentDir between.cwd) = between.text (name :: currentDir between.cwd) := by
    intro name hname
    refine hwrote.text_of_not_mem ?_
    rw [writes_bundleCall hnamed]
    simp [currentPlace, currentDir, snapshotPlace, historyDir, hname]
  refine ⟨steps, current, htext, ?_, ?_, ?_⟩
  · intro entry hmem hother
    obtain ⟨hfile, text, htext, hhash⟩ := hentries entry hmem
    refine ⟨hfile, text, ?_, hhash⟩
    rw [hwrote.cwd, hkept _ hother]
    exact htext
  · intro entry hmem hown
    obtain ⟨hfile, text, htext, hhash⟩ := hentries entry hmem
    refine ⟨hfile, text, ?_, hhash⟩
    rw [hown, ← htext, hown, hcwd]
    exact hold.symm
  · intro name text hjson hother htext
    rw [hwrote.cwd, hkept name hother] at htext
    exact hfiles name text hjson htext

end Runs

end Admissorium.Scripts
