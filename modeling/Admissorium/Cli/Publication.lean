import Admissorium.Reports.HistoryWriter

/-!
# Publication

At its end `cli/admissorium` replaces the twelve current reports one by one, and only then asks
for a history snapshot, which can refuse. By that time the current reports are those of the new
run, so a refusal leaves them as they were only if they said the same before.
-/
namespace Admissorium.Cli
set_option autoImplicit false

open JavaScript Reports Files Reports.HistoryWriter

/-- The names and the contents of the current reports, in the order they are written. -/
def currentFiles (rt : Runtime) (report : AdmissibilityReport)
    (artifacts : HistorySnapshotArtifacts) : List (String × Except JsError String) :=
  [("accepted-graph.json", storedText rt artifacts.acceptedGraph),
    ("candidate-graph.json", storedText rt artifacts.candidateGraph),
    ("repair-plan.json", storedText rt artifacts.repairPlan),
    ("admissibility-report.json", storedText rt (.data report.toValue)),
    ("admissibility-report.md", .ok artifacts.markdownReport),
    ("red-list.json", storedText rt artifacts.redList),
    ("yellow-list.json", storedText rt artifacts.yellowList),
    ("green-list.json", storedText rt artifacts.greenList),
    ("quarantine-list.json", storedText rt artifacts.quarantineList),
    ("merge-verdict.json", storedText rt artifacts.mergeVerdict),
    ("acceptance-readiness.json", storedText rt artifacts.acceptanceReadiness),
    ("actuator-readiness.json", storedText rt artifacts.actuatorReadiness)]

def writeCurrentFile (file : String × Except JsError String) : Fs Unit := do
  let text ← orThrow file.2
  writeFileSync ("reports/current/" ++ file.1) text

def writeCurrentReports (rt : Runtime) (report : AdmissibilityReport)
    (artifacts : HistorySnapshotArtifacts) : Fs Unit := do
  mkdirSync "reports/current"
  let _ ← (currentFiles rt report artifacts).mapM writeCurrentFile
  return ()

/-- The end of `main`, before it prints the report and exits. -/
def publish (rt : Runtime) (report : AdmissibilityReport) (artifacts : HistorySnapshotArtifacts) :
    Fs String := do
  writeCurrentReports rt report artifacts
  writeHistorySnapshot rt "." report artifacts

/-! ## A publication that is refused -/

/-- The run gets to its snapshot and finds the directory there. -/
def Refused (rt : Runtime) (report : AdmissibilityReport) (artifacts : HistorySnapshotArtifacts)
    (fs : FileSystem) : Prop :=
  ∃ between, writeCurrentReports rt report artifacts fs = .ok () between ∧
    existsSync (historyDirOf "." report.run_id) between = .ok true between

def currentPlace (fs : FileSystem) : Place := "current" :: "reports" :: fs.cwd

/-- Every file under `reports/current` holds what it held. -/
def LeavesCurrent (rt : Runtime) (report : AdmissibilityReport)
    (artifacts : HistorySnapshotArtifacts) (fs : FileSystem) : Prop :=
  ∀ place, currentPlace fs <:+ place →
    (left (publish rt report artifacts fs)).text place = fs.text place

section Publication
variable {rt : Runtime} {report : AdmissibilityReport} {artifacts : HistorySnapshotArtifacts}
  {fs : FileSystem}

theorem resolve_current (cwd : Place) {name : String} (h : IsName name) :
    resolve cwd ("reports/current/" ++ name) = name :: "current" :: "reports" :: cwd := by
  have hdir : follow cwd "reports/current" = "current" :: "reports" :: cwd := rfl
  have hpath : "reports/current/" ++ name = "reports/current" ++ "/" ++ name := rfl
  have hrelative : isAbsolute "reports/current" = false := by decide
  rw [hpath, resolve, String.append_assoc, isAbsolute_append (by decide), hrelative,
    if_neg Bool.false_ne_true, ← String.append_assoc, follow_append, hdir, follow_name h]

theorem isName_currentFiles : ∀ file ∈ currentFiles rt report artifacts, IsName file.1 := by
  have hnames : ∀ name ∈ (currentFiles rt report artifacts).map Prod.fst, IsName name := by
    change ∀ name ∈ ["accepted-graph.json", "candidate-graph.json", "repair-plan.json",
      "admissibility-report.json", "admissibility-report.md", "red-list.json", "yellow-list.json",
      "green-list.json", "quarantine-list.json", "merge-verdict.json", "acceptance-readiness.json",
      "actuator-readiness.json"], IsName name
    decide
  exact fun file hfile => hnames file.1 (List.mem_map_of_mem hfile)

theorem nodup_currentFiles : ((currentFiles rt report artifacts).map Prod.fst).Nodup := by
  change ["accepted-graph.json", "candidate-graph.json", "repair-plan.json",
    "admissibility-report.json", "admissibility-report.md", "red-list.json", "yellow-list.json",
    "green-list.json", "quarantine-list.json", "merge-verdict.json", "acceptance-readiness.json",
    "actuator-readiness.json"].Nodup
  decide

/-- The text of a file, when it has one. -/
def textOrEmpty (content : Except JsError String) : String := content.toOption.getD ""

def currentWrite (cwd : Place) (file : String × Except JsError String) : Place × String :=
  placed ("current" :: "reports" :: cwd) (file.1, textOrEmpty file.2)

theorem writeCurrentFile_writesOne (cwd : Place) {file : String × Except JsError String}
    (h : IsName file.1) : WritesOne cwd (writeCurrentFile file) () (currentWrite cwd file) := by
  intro fs hcwd
  obtain ⟨name, content⟩ := file
  cases content with
  | error e => exact Or.inl ⟨e, run_bind_of_error rfl⟩
  | ok text =>
      have hread : orThrow (.ok text) fs = .ok text fs := rfl
      have hwrite := writeFileSync_cases ("reports/current/" ++ name) text fs
      rw [resolve_current fs.cwd h, hcwd] at hwrite
      rcases hwrite with ⟨e, he⟩ | ⟨_, after, hok, hwrote⟩
      · exact Or.inl ⟨e, (run_bind_of_ok hread).trans he⟩
      · exact Or.inr ⟨after, (run_bind_of_ok hread).trans hok, hwrote⟩

/-- Current reports that are all written have texts, and hold them. -/
theorem wrote_of_writeCurrentReports {between : FileSystem}
    (h : writeCurrentReports rt report artifacts fs = .ok () between) :
    (∀ file ∈ currentFiles rt report artifacts, file.2 = .ok (textOrEmpty file.2)) ∧
      Wrote fs ((currentFiles rt report artifacts).map (currentWrite fs.cwd)) between := by
  obtain ⟨_, made, hmade, h⟩ := run_bind_eq_ok.mp h
  obtain ⟨results, filled, hloop, h⟩ := run_bind_eq_ok.mp h
  cases h
  have hwrotemade : Wrote fs [] made := by
    rcases mkdirSync_cases "reports/current" fs with ⟨e, he⟩ | ⟨_, after, hok, hwrote⟩
    · rw [he] at hmade
      cases hmade
    · rw [hok] at hmade
      cases hmade
      exact hwrote
  constructor
  · intro file hfile
    obtain ⟨_, before, after, hstep⟩ := exists_run_of_mem hloop file hfile
    obtain ⟨text, _, hread, _⟩ := run_bind_eq_ok.mp hstep
    cases hcontent : file.2 with
    | ok text => rfl
    | error e =>
        rw [hcontent] at hread
        cases hread
  · rcases mapM_wrote (fun file hfile => writeCurrentFile_writesOne fs.cwd
      (isName_currentFiles file hfile)) hwrotemade.cwd with
      ⟨after, hok, hwrote⟩ | ⟨e, done, after, _, herror, _⟩
    · rw [hok] at hloop
      cases hloop
      exact hwrotemade.trans hwrote
    · rw [herror] at hloop
      cases hloop

/-- A run that is refused leaves the tree with the new current reports in it. -/
theorem left_of_refused {between : FileSystem}
    (h : writeCurrentReports rt report artifacts fs = .ok () between)
    (hthere : existsSync (historyDirOf "." report.run_id) between = .ok true between) :
    publish rt report artifacts fs = .error (refusal (historyDirOf "." report.run_id)) between := by
  have hrefuses : SnapshotCall.run rt ⟨".", report, artifacts⟩ between =
      .error (refusal (historyDirOf "." report.run_id)) between := refused_of_there hthere
  exact (run_bind_of_ok h).trans hrefuses

/-- A refused publication leaves the current reports as they were exactly when each of them held
the text that the refused run writes to it. -/
theorem leavesCurrent_iff (hrefused : Refused rt report artifacts fs) :
    LeavesCurrent rt report artifacts fs ↔ ∀ file ∈ currentFiles rt report artifacts,
      ∃ text, file.2 = .ok text ∧ fs.text (file.1 :: currentPlace fs) = some text := by
  obtain ⟨between, hwritten, hthere⟩ := hrefused
  obtain ⟨htexts, hwrote⟩ := wrote_of_writeCurrentReports hwritten
  have hleft : left (publish rt report artifacts fs) = between := by
    rw [left_of_refused hwritten hthere]
    rfl
  have hnodup : (((currentFiles rt report artifacts).map (currentWrite fs.cwd)).map
      Prod.fst).Nodup := by
    have hnames : (((currentFiles rt report artifacts).map
        (fun file => (file.1, textOrEmpty file.2))).map Prod.fst).Nodup := by
      rw [List.map_map]
      exact nodup_currentFiles
    have hplaced := nodup_placed ("current" :: "reports" :: fs.cwd) hnames
    rw [List.map_map] at hplaced
    exact hplaced
  have hheld : ∀ file ∈ currentFiles rt report artifacts,
      between.text (file.1 :: currentPlace fs) = some (textOrEmpty file.2) := fun file hfile =>
    hwrote.text_of_mem hnodup (List.mem_map_of_mem (f := currentWrite fs.cwd) hfile)
  rw [LeavesCurrent, hleft]
  constructor
  · intro h file hfile
    refine ⟨textOrEmpty file.2, htexts file hfile, ?_⟩
    rw [← h _ (List.suffix_cons _ _), hheld file hfile]
  · intro h place _
    by_cases hmem : place ∈ ((currentFiles rt report artifacts).map (currentWrite fs.cwd)).map Prod.fst
    · obtain ⟨write, hwrite, rfl⟩ := List.mem_map.mp hmem
      obtain ⟨file, hfile, rfl⟩ := List.mem_map.mp hwrite
      obtain ⟨text, htext, hbefore⟩ := h file hfile
      have hnow := hheld file hfile
      rw [htext] at hnow
      exact hnow.trans hbefore.symm
    · exact hwrote.text_of_not_mem hmem

end Publication

/-! ## A run whose directory is taken -/

/-- Whether a run is refused, as it runs. -/
def refusedRun (rt : Runtime) (report : AdmissibilityReport) (artifacts : HistorySnapshotArtifacts)
    (fs : FileSystem) : Bool :=
  match (writeCurrentReports rt report artifacts >>= fun _ =>
    existsSync (historyDirOf "." report.run_id)) fs with
  | .ok there _ => there
  | .error _ _ => false

theorem refused_of_run {rt : Runtime} {report : AdmissibilityReport}
    {artifacts : HistorySnapshotArtifacts} {fs : FileSystem}
    (h : refusedRun rt report artifacts fs = true) : Refused rt report artifacts fs := by
  unfold refusedRun at h
  cases hrun : (writeCurrentReports rt report artifacts >>= fun _ =>
      existsSync (historyDirOf "." report.run_id)) fs with
  | error e between =>
      rw [hrun] at h
      cases h
  | ok there between =>
      rw [hrun] at h
      obtain rfl : there = true := h
      obtain ⟨_, middle, hwritten, hthere⟩ := run_bind_eq_ok.mp hrun
      obtain ⟨there, hsame⟩ := existsSync_run (historyDirOf "." report.run_id) middle
      rw [hthere] at hsame
      cases hsame
      exact ⟨_, hwritten, hthere⟩

def emptyReport : AdmissibilityReport where
  run_id := "admissorium-2026-01-01T00-00-00-000Z"
  started_at := "2026-01-01T00:00:00.000Z"
  org := "Verifrax"
  mode := .audit
  accepted_graph_ref := "reports/current/accepted-graph.json"
  candidate_graph_ref := "reports/current/candidate-graph.json"
  verdict := .admissible
  red_count := 0
  yellow_count := 0
  green_count := 1
  quarantine_count := 0
  findings := []
  repair_plan_ref := "reports/current/repair-plan.json"

def emptyList : Unknown := .data (.arr [])

def emptyArtifacts : HistorySnapshotArtifacts :=
  ⟨emptyList, emptyList, emptyList, "# Report\n", emptyList, emptyList, emptyList, emptyList,
    emptyList, emptyList, emptyList⟩

/-- A red list of another run, and a history directory of this one. -/
def takenTree : FileSystem := .ofList
  [(["reports"], .dir), (["current", "reports"], .dir),
    (["red-list.json", "current", "reports"], .file "[\"RED\"]\n"), (["history", "reports"], .dir),
    ([emptyReport.run_id, "history", "reports"], .dir)] (by decide +kernel)

theorem refused_takenTree : Refused .ascii emptyReport emptyArtifacts takenTree :=
  refused_of_run (by decide +kernel)

theorem leavesCurrent_iff_takenTree :
    LeavesCurrent .ascii emptyReport emptyArtifacts takenTree ↔
      ∀ file ∈ currentFiles .ascii emptyReport emptyArtifacts, ∃ text, file.2 = .ok text ∧
        takenTree.text (file.1 :: currentPlace takenTree) = some text :=
  leavesCurrent_iff refused_takenTree

/-- The red list of the other run is gone. -/
theorem takenTree_not_leavesCurrent :
    Refused .ascii emptyReport emptyArtifacts takenTree ∧
      ¬ LeavesCurrent .ascii emptyReport emptyArtifacts takenTree := by
  refine ⟨refused_takenTree, fun h => ?_⟩
  have hred := h ["red-list.json", "current", "reports"] (List.suffix_cons _ _)
  revert hred
  decide +kernel

end Admissorium.Cli
