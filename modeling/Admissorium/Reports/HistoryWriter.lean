import Admissorium.Files.FileSystem
import Admissorium.JavaScript.JsonRoundTrip
import Admissorium.Reports

/-!
# History snapshots

`reports/history-writer` stores the artifacts of a run in a directory of its own, with a
manifest of their digests. It refuses a directory that exists; what it writes is new, so no run
of snapshots changes a file that was there.
-/
namespace Admissorium.Reports.HistoryWriter
set_option autoImplicit false

open JavaScript Files

/-- What `JSON.stringify` can be given: plain data, or what it throws on. -/
inductive Unknown where
  | data (v : Value)
  | unserializable (e : JsError)

/-- The text of `${JSON.stringify(value, null, 2)}`, a line break behind it. -/
def storedText (rt : Runtime) : Unknown → Except JsError String
  | .data v => .ok ((Json.pretty rt 0 v).getD "undefined" ++ "\n")
  | .unserializable e => .error e

structure HistorySnapshotArtifacts where
  acceptedGraph : Unknown
  candidateGraph : Unknown
  repairPlan : Unknown
  markdownReport : String
  redList : Unknown
  yellowList : Unknown
  greenList : Unknown
  quarantineList : Unknown
  mergeVerdict : Unknown
  acceptanceReadiness : Unknown
  actuatorReadiness : Unknown

structure ManifestEntry where
  path : String
  sha256 : String

def ManifestEntry.toValue (entry : ManifestEntry) : Value :=
  .obj [("path", .str entry.path), ("sha256", .str entry.sha256)]

def writeArtifact (rt : Runtime) (dir path content : String) : Fs ManifestEntry := do
  writeFileSync (join [dir, path]) content
  return { path, sha256 := rt.sha256 content }

/-- The texts of the twelve files, in the order they are written. -/
def snapshotFiles (rt : Runtime) (report : AdmissibilityReport)
    (artifacts : HistorySnapshotArtifacts) : Except JsError (List (String × String)) := do
  let reportJson ← storedText rt (.data report.toValue)
  let acceptedGraphJson ← storedText rt artifacts.acceptedGraph
  let candidateGraphJson ← storedText rt artifacts.candidateGraph
  let repairPlanJson ← storedText rt artifacts.repairPlan
  let redListJson ← storedText rt artifacts.redList
  let yellowListJson ← storedText rt artifacts.yellowList
  let greenListJson ← storedText rt artifacts.greenList
  let quarantineListJson ← storedText rt artifacts.quarantineList
  let mergeVerdictJson ← storedText rt artifacts.mergeVerdict
  let acceptanceReadinessJson ← storedText rt artifacts.acceptanceReadiness
  let actuatorReadinessJson ← storedText rt artifacts.actuatorReadiness
  return [("admissibility-report.json", reportJson),
    ("admissibility-report.md", artifacts.markdownReport),
    ("accepted-graph.json", acceptedGraphJson), ("candidate-graph.json", candidateGraphJson),
    ("repair-plan.json", repairPlanJson), ("red-list.json", redListJson),
    ("yellow-list.json", yellowListJson), ("green-list.json", greenListJson),
    ("quarantine-list.json", quarantineListJson), ("merge-verdict.json", mergeVerdictJson),
    ("acceptance-readiness.json", acceptanceReadinessJson),
    ("actuator-readiness.json", actuatorReadinessJson)]

def manifestValue (report : AdmissibilityReport) (files : List ManifestEntry) : Value :=
  .obj [("run_id", .str report.run_id), ("started_at", .str report.started_at),
    ("verdict", .str report.verdict.text), ("immutable_local_snapshot", .bool true),
    ("files", .arr (files.map ManifestEntry.toValue))]

def historyDirOf (baseDir run_id : String) : String := join [baseDir, "reports", "history", run_id]

def refusal (historyDir : String) : JsError :=
  .error ("History snapshot already exists: " ++ historyDir)

/-- From the directory on, once it is known not to exist. -/
def storeSnapshot (rt : Runtime) (historyDir : String) (report : AdmissibilityReport)
    (artifacts : HistorySnapshotArtifacts) : Fs String := do
  mkdirSync historyDir
  let contents ← orThrow (snapshotFiles rt report artifacts)
  let files ← contents.mapM (fun file => writeArtifact rt historyDir file.1 file.2)
  let _ ← writeArtifact rt historyDir "manifest.json"
    (Json.prettyOf rt 0 (manifestValue report files) ++ "\n")
  return historyDir

def writeHistorySnapshot (rt : Runtime) (baseDir : String) (report : AdmissibilityReport)
    (artifacts : HistorySnapshotArtifacts) : Fs String := do
  let historyDir := historyDirOf baseDir report.run_id
  if (← existsSync historyDir) then throw (refusal historyDir)
  else storeSnapshot rt historyDir report artifacts

/-! ## What one call does -/

section Call
variable {rt : Runtime} {fs : FileSystem} {historyDir : String}

def entryOf (rt : Runtime) (file : String × String) : ManifestEntry := ⟨file.1, rt.sha256 file.2⟩

def snapshotNames : List String :=
  ["admissibility-report.json", "admissibility-report.md", "accepted-graph.json",
    "candidate-graph.json", "repair-plan.json", "red-list.json", "yellow-list.json",
    "green-list.json", "quarantine-list.json", "merge-verdict.json", "acceptance-readiness.json",
    "actuator-readiness.json"]

theorem isName_snapshotNames : ∀ name ∈ "manifest.json" :: snapshotNames, IsName name := by decide

theorem isName_manifest (text : String) : IsName ("manifest.json", text).1 :=
  isName_snapshotNames _ List.mem_cons_self

theorem nodup_snapshotNames : (snapshotNames ++ ["manifest.json"]).Nodup := by decide

theorem names_of_snapshotFiles {report : AdmissibilityReport} {artifacts : HistorySnapshotArtifacts}
    {contents : List (String × String)} (h : snapshotFiles rt report artifacts = .ok contents) :
    contents.map Prod.fst = snapshotNames := by
  simp only [snapshotFiles, bind_eq_ok] at h
  obtain ⟨_, _, _, _, _, _, _, _, _, _, _, _, _, _, _, _, _, _, _, _, _, _, h⟩ := h
  cases h
  rfl

theorem writeArtifact_writesOne (rt : Runtime) (cwd : Place) (hdir : historyDir ≠ "")
    {file : String × String} (hname : IsName file.1) :
    WritesOne cwd (writeArtifact rt historyDir file.1 file.2) (entryOf rt file)
      (placed (resolve cwd historyDir) file) := by
  intro fs hcwd
  rcases writeFileSync_cases (join [historyDir, file.1]) file.2 fs with
    ⟨e, he⟩ | ⟨_, after, hok, hwrote⟩
  · exact Or.inl ⟨e, run_bind_of_error he⟩
  · rw [resolve_join fs.cwd hdir hname, hcwd] at hwrote
    exact Or.inr ⟨after, run_bind_of_ok hok, hwrote⟩

theorem not_there_of_made (h : existsSync historyDir fs = .ok false fs)
    (hnul : hasNul historyDir = false) (hmade : fs.CanMake (resolve fs.cwd historyDir)) :
    fs.node (resolve fs.cwd historyDir) = none := by
  have htext := hmade _ ((List.mem_tails _ _).mpr (List.suffix_refl _))
  rw [existsSync, hnul] at h
  cases hnode : fs.node (resolve fs.cwd historyDir) with
  | none => rfl
  | some node =>
      cases node with
      | dir =>
          rw [hnode] at h
          cases h
      | file text =>
          rw [FileSystem.text, hnode] at htext
          cases htext

/-- How a call can end: it refuses, it cannot make its directory, an artifact or a write
throws, or everything is written. Whatever is written is new. -/
inductive Outcome (rt : Runtime) (call : Fs String) (historyDir : String)
    (report : AdmissibilityReport) (artifacts : HistorySnapshotArtifacts) (fs : FileSystem) : Prop
  | refused (hthere : existsSync historyDir fs = .ok true fs)
      (hresult : call fs = .error (refusal historyDir) fs)
  | unmade (e : JsError) (hthere : existsSync historyDir fs = .ok false fs)
      (hresult : call fs = .error e fs)
  | broken (e : JsError) (after : FileSystem) (writes : List (Place × String))
      (hthere : existsSync historyDir fs = .ok false fs) (hresult : call fs = .error e after)
      (hwrote : Wrote fs writes after) (hnew : ∀ write ∈ writes, fs.text write.1 = none)
  | stored (after : FileSystem) (contents : List (String × String))
      (hthere : existsSync historyDir fs = .ok false fs) (hresult : call fs = .ok historyDir after)
      (hcontents : snapshotFiles rt report artifacts = .ok contents)
      (hwrote : Wrote fs ((contents ++ [("manifest.json",
        Json.prettyOf rt 0 (manifestValue report (contents.map (entryOf rt))) ++ "\n")]).map
          (placed (resolve fs.cwd historyDir))) after)
      (hnew : ∀ name, fs.text (name :: resolve fs.cwd historyDir) = none)

theorem storeSnapshot_cases (hne : historyDir ≠ "")
    (hthere : existsSync historyDir fs = .ok false fs) {call : Fs String}
    {report : AdmissibilityReport} {artifacts : HistorySnapshotArtifacts}
    (hcall : call fs = storeSnapshot rt historyDir report artifacts fs) :
    Outcome rt call historyDir report artifacts fs := by
  rcases mkdirSync_cases historyDir fs with ⟨e, he⟩ | ⟨⟨hnul, hcan⟩, made, hmade, hwrotemade⟩
  · exact .unmade e hthere (hcall.trans (run_bind_of_error he))
  replace hcall := hcall.trans (run_bind_of_ok hmade)
  have hnone := not_there_of_made hthere hnul hcan
  have hnew : ∀ name, fs.text (name :: resolve fs.cwd historyDir) = none := by
    intro name
    rw [FileSystem.text, fs.node_child_eq_none hnone]
  have hcwd : made.cwd = fs.cwd := hwrotemade.cwd
  cases hcontents : snapshotFiles rt report artifacts with
  | error e =>
      have hthrow : orThrow (snapshotFiles rt report artifacts) made = .error e made := by
        rw [hcontents]
        rfl
      exact .broken e made [] hthere (hcall.trans (run_bind_of_error hthrow)) hwrotemade
        (fun _ hw => absurd hw List.not_mem_nil)
  | ok contents =>
      have hread : orThrow (snapshotFiles rt report artifacts) made = .ok contents made := by
        rw [hcontents]
        rfl
      replace hcall := hcall.trans (run_bind_of_ok hread)
      have hnames : ∀ file ∈ contents, IsName file.1 := by
        intro file hfile
        refine isName_snapshotNames _ (List.mem_cons_of_mem _ ?_)
        rw [← names_of_snapshotFiles hcontents]
        exact List.mem_map_of_mem hfile
      have hplaces : ∀ files : List (String × String), ∀ write ∈
          files.map (placed (resolve fs.cwd historyDir)), fs.text write.1 = none := by
        intro files write hwrite
        obtain ⟨file, _, rfl⟩ := List.mem_map.mp hwrite
        exact hnew file.1
      rcases mapM_wrote (fun file hfile => writeArtifact_writesOne rt fs.cwd hne (hnames file hfile))
        hcwd with ⟨filled, hloop, hfilled⟩ | ⟨e, done, filled, _, hloop, hfilled⟩
      · replace hcall := hcall.trans (run_bind_of_ok hloop)
        have hmanifest := writeArtifact_writesOne rt fs.cwd hne (isName_manifest
          (Json.prettyOf rt 0 (manifestValue report (contents.map (entryOf rt))) ++ "\n"))
        rcases hmanifest filled (hfilled.cwd.trans hcwd) with ⟨e, he⟩ | ⟨after, hok, hlast⟩
        · exact .broken e filled _ hthere (hcall.trans (run_bind_of_error he))
            (hwrotemade.trans hfilled) (hplaces contents)
        · refine .stored after contents hthere (hcall.trans (run_bind_of_ok hok)) hcontents ?_ hnew
          rw [List.map_append]
          exact (hwrotemade.trans hfilled).trans hlast
      · exact .broken e filled _ hthere (hcall.trans (run_bind_of_error hloop))
          (hwrotemade.trans hfilled) (hplaces done)

theorem outcome (rt : Runtime) (baseDir : String) (report : AdmissibilityReport)
    (artifacts : HistorySnapshotArtifacts) (fs : FileSystem) :
    Outcome rt (writeHistorySnapshot rt baseDir report artifacts)
      (historyDirOf baseDir report.run_id) report artifacts fs := by
  obtain ⟨there, hthere⟩ := existsSync_run (historyDirOf baseDir report.run_id) fs
  have hcall := run_bind_of_ok (f := fun there => if there = true then
    throw (refusal (historyDirOf baseDir report.run_id))
    else storeSnapshot rt (historyDirOf baseDir report.run_id) report artifacts) hthere
  cases there with
  | true => exact .refused hthere hcall
  | false => exact storeSnapshot_cases (join_ne_empty _) hthere hcall

/-! ## What a snapshot says of itself -/

/-- The manifest of a directory lists the twelve files in it once each, with the digests of the
texts they hold. -/
def SelfCertifying (rt : Runtime) (read : String → Option Number) (fs : FileSystem)
    (historyDir : String) : Prop :=
  ∃ text manifest entries,
    fs.text (resolve fs.cwd (join [historyDir, "manifest.json"])) = some text ∧
    Json.parse read text = .ok manifest ∧ manifest.get "files" = .arr entries ∧
    entries.map (fun entry => entry.get "path") = snapshotNames.map .str ∧
    ∀ entry ∈ entries, ∃ path content, entry.get "path" = .str path ∧
      fs.text (resolve fs.cwd (join [historyDir, path])) = some content ∧
      entry.get "sha256" = .str (rt.sha256 content)

theorem isJson_manifestValue (report : AdmissibilityReport) (files : List ManifestEntry) :
    Json.IsJson (manifestValue report files) := by
  have hfiles : ∀ entry ∈ files.map ManifestEntry.toValue, Json.IsJson entry := by
    intro entry hentry
    obtain ⟨file, _, rfl⟩ := List.mem_map.mp hentry
    rw [ManifestEntry.toValue, Json.isJson_obj]
    have hkeys : ["path", "sha256"].Nodup := by decide
    exact ⟨hkeys, by simp [Json.IsJson]⟩
  have hkeys : ["run_id", "started_at", "verdict", "immutable_local_snapshot", "files"].Nodup := by
    decide
  rw [manifestValue, Json.isJson_obj]
  refine ⟨hkeys, ?_⟩
  simp only [List.forall_mem_cons, Json.isJson_arr]
  exact ⟨trivial, trivial, trivial, trivial, hfiles, fun _ hf => absurd hf List.not_mem_nil⟩

theorem numbersOf_manifestValue (report : AdmissibilityReport) (files : List ManifestEntry) :
    Json.numbersOf (manifestValue report files) = [] := by
  have hfiles : ∀ files : List ManifestEntry,
      Json.numbersOfItems (files.map ManifestEntry.toValue) = [] := by
    intro files
    induction files with
    | nil => rfl
    | cons file rest ih =>
        rw [List.map_cons, Json.numbersOfItems, ih]
        rfl
  change Json.numbersOf (.arr (files.map ManifestEntry.toValue)) ++ [] = []
  rw [Json.numbersOf, hfiles]
  rfl

theorem parse_manifest (read : String → Option Number) (report : AdmissibilityReport)
    (files : List ManifestEntry) :
    Json.parse read (Json.prettyOf rt 0 (manifestValue report files) ++ "\n") =
      .ok (manifestValue report files) := by
  apply Json.parse_prettyOf (isJson_manifestValue report files)
  rw [numbersOf_manifestValue]
  exact nofun

/-- The texts of the twelve files and of the manifest are enough. -/
theorem selfCertifying_of_texts (read : String → Option Number) (hne : historyDir ≠ "")
    {report : AdmissibilityReport} {artifacts : HistorySnapshotArtifacts}
    {contents : List (String × String)} (hcontents : snapshotFiles rt report artifacts = .ok contents)
    (htexts : ∀ file ∈ contents ++ [("manifest.json",
      Json.prettyOf rt 0 (manifestValue report (contents.map (entryOf rt))) ++ "\n")],
      fs.text (file.1 :: resolve fs.cwd historyDir) = some file.2) :
    SelfCertifying rt read fs historyDir := by
  have hnames := names_of_snapshotFiles hcontents
  have hjoin : ∀ name ∈ "manifest.json" :: snapshotNames,
      resolve fs.cwd (join [historyDir, name]) = name :: resolve fs.cwd historyDir :=
    fun name hname => resolve_join fs.cwd hne (isName_snapshotNames name hname)
  have hparse : Json.parse read (Json.prettyOf rt 0 (manifestValue report
      (contents.map (entryOf rt))) ++ "\n") = .ok (manifestValue report
        (contents.map (entryOf rt))) := parse_manifest read _ _
  refine ⟨_, manifestValue report (contents.map (entryOf rt)),
    (contents.map (entryOf rt)).map ManifestEntry.toValue, ?_, hparse, rfl, ?_, ?_⟩
  · rw [hjoin _ List.mem_cons_self]
    exact htexts _ (List.mem_append_right _ (List.mem_singleton.mpr rfl))
  · rw [← hnames, List.map_map, List.map_map, List.map_map]
    rfl
  · intro entry hentry
    rw [List.map_map] at hentry
    obtain ⟨file, hfile, rfl⟩ := List.mem_map.mp hentry
    refine ⟨file.1, file.2, rfl, ?_, rfl⟩
    have hname : file.1 ∈ snapshotNames := hnames ▸ List.mem_map_of_mem hfile
    rw [hjoin _ (List.mem_cons_of_mem _ hname)]
    exact htexts _ (List.mem_append_left _ hfile)

end Call

/-! ## Runs of snapshots -/

structure SnapshotCall where
  baseDir : String
  report : AdmissibilityReport
  artifacts : HistorySnapshotArtifacts

def SnapshotCall.run (rt : Runtime) (call : SnapshotCall) : Fs String :=
  writeHistorySnapshot rt call.baseDir call.report call.artifacts

def SnapshotCall.historyDir (call : SnapshotCall) : String :=
  historyDirOf call.baseDir call.report.run_id

/-- A caller that goes on after a call that throws. -/
def runCalls (rt : Runtime) (calls : List SnapshotCall) (fs : FileSystem) : FileSystem :=
  calls.foldl (fun fs call => left (call.run rt fs)) fs

section Calls
variable {rt : Runtime}

/-- A call keeps the files there were, and the working directory. -/
theorem left_kept (call : SnapshotCall) (fs : FileSystem) :
    FilesKept fs (left (call.run rt fs)) ∧ (left (call.run rt fs)).cwd = fs.cwd := by
  change FilesKept fs (left (writeHistorySnapshot rt _ _ _ fs)) ∧
    (left (writeHistorySnapshot rt _ _ _ fs)).cwd = fs.cwd
  cases outcome rt call.baseDir call.report call.artifacts fs with
  | refused _ hresult =>
      rw [hresult]
      exact ⟨FilesKept.refl fs, rfl⟩
  | unmade e _ hresult =>
      rw [hresult]
      exact ⟨FilesKept.refl fs, rfl⟩
  | broken e after writes _ hresult hwrote hnew =>
      rw [hresult]
      exact ⟨hwrote.filesKept hnew, hwrote.cwd⟩
  | stored after contents _ hresult _ hwrote hnew =>
      rw [hresult]
      refine ⟨hwrote.filesKept (fun write hwrite => ?_), hwrote.cwd⟩
      obtain ⟨file, _, rfl⟩ := List.mem_map.mp hwrite
      exact hnew file.1

theorem runCalls_kept (calls : List SnapshotCall) (fs : FileSystem) :
    FilesKept fs (runCalls rt calls fs) ∧ (runCalls rt calls fs).cwd = fs.cwd := by
  induction calls generalizing fs with
  | nil => exact ⟨FilesKept.refl fs, rfl⟩
  | cons call rest ih =>
      obtain ⟨hkept, hcwd⟩ := left_kept call fs
      obtain ⟨hrest, hcwdrest⟩ := ih (left (call.run rt fs))
      exact ⟨hkept.trans hrest, hcwdrest.trans hcwd⟩

/-- A call whose directory exists refuses, and leaves the tree as it is. -/
theorem refused_of_there {call : SnapshotCall} {fs : FileSystem}
    (h : existsSync call.historyDir fs = .ok true fs) :
    call.run rt fs = .error (refusal call.historyDir) fs := by
  have hagain : ∀ there, existsSync call.historyDir fs = .ok there fs → there = true := by
    intro there hthere
    rw [hthere] at h
    cases h
    rfl
  cases outcome rt call.baseDir call.report call.artifacts fs with
  | refused _ hresult => exact hresult
  | unmade e hthere _ => exact absurd (hagain false hthere) Bool.false_ne_true
  | broken e after writes hthere _ _ _ => exact absurd (hagain false hthere) Bool.false_ne_true
  | stored after contents hthere _ _ _ _ => exact absurd (hagain false hthere) Bool.false_ne_true

/-- A snapshot that is stored certifies itself, and does so as long as its files are kept. -/
theorem selfCertifying_of_stored (read : String → Option Number) {call : SnapshotCall}
    {fs after later : FileSystem} {dir : String} (h : call.run rt fs = .ok dir after)
    (hkept : FilesKept after later) (hcwd : later.cwd = after.cwd) :
    dir = call.historyDir ∧ SelfCertifying rt read later dir := by
  change writeHistorySnapshot rt _ _ _ fs = _ at h
  cases outcome rt call.baseDir call.report call.artifacts fs with
  | refused _ hresult =>
      rw [hresult] at h
      cases h
  | unmade e _ hresult =>
      rw [hresult] at h
      cases h
  | broken e after writes _ hresult _ _ =>
      rw [hresult] at h
      cases h
  | stored after contents _ hresult hcontents hwrote _ =>
      rw [hresult] at h
      cases h
      refine ⟨rfl, selfCertifying_of_texts read (join_ne_empty _) hcontents ?_⟩
      intro file hfile
      have hnodup : (((contents ++ [("manifest.json", Json.prettyOf rt 0 (manifestValue call.report
          (contents.map (entryOf rt))) ++ "\n")]).map (placed (resolve fs.cwd
            (historyDirOf call.baseDir call.report.run_id)))).map Prod.fst).Nodup := by
        apply nodup_placed _
        rw [List.map_append, names_of_snapshotFiles hcontents]
        exact nodup_snapshotNames
      apply hkept _ _
      rw [hcwd, hwrote.cwd]
      exact hwrote.text_of_mem hnodup (List.mem_map_of_mem hfile)

/-- Over any run of snapshots no file that was there is changed or removed, a call whose
directory exists refuses and changes nothing, and a snapshot that is stored has a manifest with
the digests of its twelve files, right after the call and at the end of the run. -/
theorem snapshots_immutable (rt : Runtime) (read : String → Option Number)
    (calls : List SnapshotCall) (fs : FileSystem) :
    FilesKept fs (runCalls rt calls fs) ∧
    ∀ before call later, calls = before ++ call :: later →
      FilesKept (runCalls rt before fs) (left (call.run rt (runCalls rt before fs))) ∧
      (existsSync call.historyDir (runCalls rt before fs) = .ok true (runCalls rt before fs) →
        call.run rt (runCalls rt before fs) =
          .error (refusal call.historyDir) (runCalls rt before fs)) ∧
      ∀ dir after, call.run rt (runCalls rt before fs) = .ok dir after →
        dir = call.historyDir ∧ SelfCertifying rt read after dir ∧
          SelfCertifying rt read (runCalls rt calls fs) dir := by
  refine ⟨(runCalls_kept calls fs).1, ?_⟩
  intro before call later hcalls
  refine ⟨(left_kept call _).1, refused_of_there, ?_⟩
  intro dir after h
  have hlast : runCalls rt calls fs = runCalls rt later after := by
    rw [hcalls, runCalls, List.foldl_append, List.foldl_cons]
    change runCalls rt later (left (call.run rt (runCalls rt before fs))) = _
    rw [h]
    rfl
  obtain ⟨hkept, hcwd⟩ := runCalls_kept later after
  obtain ⟨hdir, hnow⟩ := selfCertifying_of_stored read h (FilesKept.refl after) rfl
  rw [hlast]
  exact ⟨hdir, hnow, (selfCertifying_of_stored read h hkept hcwd).2⟩

end Calls

end Admissorium.Reports.HistoryWriter
