import Admissorium.Files.FileSystem
import Admissorium.JavaScript.JsonRoundTrip
import Admissorium.Signing.Replay

/-!
# Local JSON reports

`src/report/write-json-report` wraps a report in an envelope, stores it as the current report of
its name and in a history directory named after the report and the run, and binds the two with
digests in a manifest beside the second.
-/
namespace Admissorium.Reports.JsonReport
set_option autoImplicit false

open JavaScript Files

/-- The canonical text of `signing/canonical-json`, by another name. -/
def stableJson (rt : Runtime) (value : Value) : Option String := Signing.canonicalJson rt value

def FORBIDDEN_TRUE_FLAGS : List String :=
  ["writer_enabled", "webhook_enabled", "check_run_writer_enabled", "pull_request_writer_enabled",
    "issue_writer_enabled", "contents_write_enabled", "package_publish_enabled",
    "allowed_to_mutate_truth", "network_enabled", "token_persistence_enabled"]

def assertReportOnly (report : Value) : Except JsError Unit :=
  match FORBIDDEN_TRUE_FLAGS.find? (fun flag => (report.get flag).strictEquals (.bool true)) with
  | some flag => .error (.error ("report_writer_forbidden_true_flag:" ++ flag))
  | none => .ok ()

def isLowerOrDigit (c : Char) : Bool := c.isLower || c.isDigit

/-- `/^[a-z0-9][a-z0-9._-]*[a-z0-9]$/.test(name)`. -/
def validName (name : String) : Bool :=
  match name.toList with
  | first :: second :: rest =>
      isLowerOrDigit first &&
        (second :: rest).all (fun c => isLowerOrDigit c || c = '.' || c = '_' || c = '-') &&
        isLowerOrDigit ((second :: rest).getLastD first)
  | _ => false

/-- The arguments of a call and the time it is made. -/
structure ReportCall where
  name : String
  report : Value
  rootDir : String
  runId : String
  generated_at : String

/-- What the envelope and the manifest say of every report. -/
def reportOnlyFields : Fields :=
  [("schema_version", .str "1.0.0"), ("truth_warning", .str "NOT_TRUTH_SOURCE"),
    ("writer_enabled", .bool false), ("webhook_enabled", .bool false),
    ("check_run_writer_enabled", .bool false), ("pull_request_writer_enabled", .bool false),
    ("issue_writer_enabled", .bool false), ("contents_write_enabled", .bool false),
    ("package_publish_enabled", .bool false), ("allowed_to_mutate_truth", .bool false),
    ("network_enabled", .bool false), ("token_persistence_enabled", .bool false)]

namespace ReportCall

def envelopeWithoutHash (call : ReportCall) : Fields :=
  ("report_writer", .str "ADMISSORIUM_LOCAL_JSON_REPORT_WRITER") :: reportOnlyFields ++
    [("generated_at", .str call.generated_at), ("run_id", .str call.runId),
      ("report", call.report)]

def payload_hash_sha256 (rt : Runtime) (call : ReportCall) : String :=
  rt.sha256 ((stableJson rt (.obj call.envelopeWithoutHash)).getD "undefined")

def envelope (rt : Runtime) (call : ReportCall) : Fields :=
  call.envelopeWithoutHash ++ [("payload_hash_sha256", .str (call.payload_hash_sha256 rt))]

def currentDir (call : ReportCall) : String := join [call.rootDir, "reports", "current"]

def historyDir (call : ReportCall) : String :=
  join [call.rootDir, "reports", "history", call.name ++ "-" ++ call.runId]

def currentPath (call : ReportCall) : String := join [call.currentDir, call.name ++ ".json"]

def historyPath (call : ReportCall) : String := join [call.historyDir, call.name ++ ".json"]

def manifestPath (call : ReportCall) : String := join [call.historyDir, "manifest.json"]

def serialized (rt : Runtime) (call : ReportCall) : String :=
  Json.prettyOf rt 0 (.obj (call.envelope rt)) ++ "\n"

def manifest (rt : Runtime) (call : ReportCall) : Fields :=
  ("manifest", .str "ADMISSORIUM_REPORT_HISTORY_MANIFEST") :: reportOnlyFields ++
    [("run_id", .str call.runId), ("current_path", .str call.currentPath),
      ("history_path", .str call.historyPath), ("report_name", .str call.name),
      ("report_sha256", .str (rt.sha256 (call.serialized rt))),
      ("payload_hash_sha256", .str (call.payload_hash_sha256 rt))]

def manifestText (rt : Runtime) (call : ReportCall) : String :=
  Json.prettyOf rt 0 (.obj (call.manifest rt)) ++ "\n"

end ReportCall

structure WrittenReport where
  envelope : Fields
  currentPath : String
  historyPath : String
  manifestPath : String

def writeJsonReport (rt : Runtime) (call : ReportCall) : Fs WrittenReport := do
  if !validName call.name then throw (.error ("invalid_report_name:" ++ call.name))
  else do
    orThrow (assertReportOnly call.report)
    mkdirSync call.currentDir
    mkdirSync call.historyDir
    writeFileSync call.currentPath (call.serialized rt)
    writeFileSync call.historyPath (call.serialized rt)
    writeFileSync call.manifestPath (call.manifestText rt)
    return {
      envelope := call.envelope rt
      currentPath := call.currentPath
      historyPath := call.historyPath
      manifestPath := call.manifestPath }

/-! ## What a call does -/

namespace ReportCall

def currentPlace (call : ReportCall) (fs : FileSystem) : Place := resolve fs.cwd call.currentDir

def historyPlace (call : ReportCall) (fs : FileSystem) : Place := resolve fs.cwd call.historyDir

/-- The files of a call, in the order they are written. -/
def files (rt : Runtime) (call : ReportCall) : List (String × String) :=
  [(call.currentPath, call.serialized rt), (call.historyPath, call.serialized rt),
    (call.manifestPath, call.manifestText rt)]

def result (rt : Runtime) (call : ReportCall) : WrittenReport :=
  ⟨call.envelope rt, call.currentPath, call.historyPath, call.manifestPath⟩

/-- The call gets as far as its writes: the report is accepted and both directories are made. -/
structure Reaches (call : ReportCall) (fs : FileSystem) : Prop where
  accepted : assertReportOnly call.report = .ok ()
  noNul : hasNul call.currentDir = false ∧ hasNul call.historyDir = false
  current : fs.CanMake (call.currentPlace fs)
  history : fs.CanMake (call.historyPlace fs)

/-- No directory is or will be in the place of a file. -/
def Free (call : ReportCall) (fs : FileSystem) (place : Place) : Prop :=
  fs.node place ≠ some .dir ∧ ¬ place <:+ call.currentPlace fs ∧ ¬ place <:+ call.historyPlace fs

instance (call : ReportCall) (fs : FileSystem) (place : Place) : Decidable (call.Free fs place) :=
  inferInstanceAs (Decidable (_ ∧ _ ∧ _))

/-- The three files and their places. -/
def writes (rt : Runtime) (call : ReportCall) (fs : FileSystem) : List (Place × String) :=
  [((call.name ++ ".json") :: call.currentPlace fs, call.serialized rt),
    ((call.name ++ ".json") :: call.historyPlace fs, call.serialized rt),
    ("manifest.json" :: call.historyPlace fs, call.manifestText rt)]

end ReportCall

section Call
variable (rt : Runtime) {call : ReportCall} {fs : FileSystem}

theorem chars_of_validName {name : String} (h : validName name = true) :
    name ≠ "" ∧ ∀ c ∈ name.toList, isLowerOrDigit c = true ∨ c = '.' ∨ c = '_' ∨ c = '-' := by
  unfold validName at h
  split at h
  case h_1 first second rest hname =>
    simp only [Bool.and_eq_true, List.all_eq_true, Bool.or_eq_true, decide_eq_true_eq] at h
    obtain ⟨⟨hfirst, hall⟩, _⟩ := h
    refine ⟨fun he => ?_, ?_⟩
    · rw [he] at hname
      cases hname
    · rw [hname]
      refine List.forall_mem_cons.mpr ⟨Or.inl hfirst, fun c hc => ?_⟩
      simpa only [or_assoc] using hall c hc
  case h_2 => cases h

theorem json_of_validName {name : String} (h : validName name = true) :
    IsName (name ++ ".json") ∧ hasNul (name ++ ".json") = false := by
  have hchars : ∀ c ∈ (name ++ ".json").toList,
      isLowerOrDigit c = true ∨ c = '.' ∨ c = '_' ∨ c = '-' := by
    rw [String.toList_append, List.forall_mem_append]
    exact ⟨(chars_of_validName h).2, by decide⟩
  have hlength : 5 < (name ++ ".json").toList.length := by
    have hpos := List.length_pos_of_ne_nil (fun hc => (chars_of_validName h).1
      (String.toList_inj.mp hc))
    have hjson : ".json".toList.length = 5 := by decide
    rw [String.toList_append, List.length_append, hjson]
    omega
  have hshort : ∀ other : String, other.toList.length ≤ 5 → name ++ ".json" ≠ other := by
    intro other hother he
    rw [he] at hlength
    omega
  have hnot : ∀ c, ¬ (isLowerOrDigit c = true ∨ c = '.' ∨ c = '_' ∨ c = '-') →
      c ∉ (name ++ ".json").toList := fun c hc hmem => hc (hchars c hmem)
  constructor
  · exact ⟨hshort _ (by decide), hshort _ (by decide), hshort _ (by decide), hnot '/' (by decide)⟩
  · rw [hasNul_eq_false_iff]
    intro c hc he
    rw [he] at hc
    exact hnot '\x00' (by decide) hc

theorem isName_manifestJson : IsName "manifest.json" := by decide

theorem resolve_currentPath (hvalid : validName call.name = true) (fs : FileSystem) :
    resolve fs.cwd call.currentPath = (call.name ++ ".json") :: call.currentPlace fs :=
  resolve_join fs.cwd (join_ne_empty _) (json_of_validName hvalid).1

theorem resolve_historyPath (hvalid : validName call.name = true) (fs : FileSystem) :
    resolve fs.cwd call.historyPath = (call.name ++ ".json") :: call.historyPlace fs :=
  resolve_join fs.cwd (join_ne_empty _) (json_of_validName hvalid).1

theorem resolve_manifestPath (fs : FileSystem) :
    resolve fs.cwd call.manifestPath = "manifest.json" :: call.historyPlace fs :=
  resolve_join fs.cwd (join_ne_empty _) isName_manifestJson

theorem writesOf_files (hvalid : validName call.name = true) (fs : FileSystem) :
    writesOf fs (call.files rt) = call.writes rt fs := by
  rw [writesOf, ReportCall.files, ReportCall.writes]
  simp only [List.map_cons, List.map_nil, resolve_currentPath hvalid, resolve_historyPath hvalid,
    resolve_manifestPath]

/-- The tree after both directories are made. -/
structure Made (call : ReportCall) (fs made : FileSystem) : Prop where
  wrote : Wrote fs [] made
  dir_iff : ∀ place, made.node place = some .dir ↔
    fs.node place = some .dir ∨ place <:+ call.currentPlace fs ∨ place <:+ call.historyPlace fs

/-- Either the call writes nothing and throws, or it makes its directories and writes its files
one after another. -/
theorem writeJsonReport_cases (hvalid : validName call.name = true) (fs : FileSystem) :
    (¬ call.Reaches fs ∧ ∃ e after, writeJsonReport rt call fs = .error e after ∧
      Wrote fs [] after) ∨
    call.Reaches fs ∧ ∃ made, Made call fs made ∧ writeJsonReport rt call fs =
      (writeEach (call.files rt) >>= fun _ => pure (call.result rt)) made := by
  have hrun : writeJsonReport rt call fs = (orThrow (assertReportOnly call.report) >>= fun _ =>
      mkdirSync call.currentDir >>= fun _ => mkdirSync call.historyDir >>= fun _ =>
        writeEach (call.files rt) >>= fun _ => pure (call.result rt)) fs := by
    rw [writeJsonReport, hvalid, if_neg (by decide)]
    simp only [ReportCall.files, writeEach, bind_assoc, pure_bind]
    rfl
  rw [hrun]
  cases hreport : assertReportOnly call.report with
  | error e =>
      refine Or.inl ⟨fun hreaches => ?_, e, fs, run_bind_of_error rfl, Wrote.refl fs⟩
      rw [hreaches.accepted] at hreport
      cases hreport
  | ok accepted =>
      rw [orThrow_ok, pure_bind]
      rcases mkdirSync_cases call.currentDir fs with ⟨e, he⟩ | ⟨⟨hnul, hcurrent⟩, _⟩
      · refine Or.inl ⟨fun hreaches => ?_, e, fs, run_bind_of_error he, Wrote.refl fs⟩
        rw [mkdirSync_of_can hreaches.noNul.1 hreaches.current] at he
        cases he
      have hwrote := wrote_makeDirs fs hcurrent
      rw [run_bind_of_ok (mkdirSync_of_can hnul hcurrent)]
      rcases mkdirSync_cases call.historyDir (fs.makeDirs _ hcurrent) with
        ⟨e, he⟩ | ⟨⟨hnul', hhistory⟩, _⟩
      · refine Or.inl ⟨fun hreaches => ?_, e, _, run_bind_of_error he, hwrote⟩
        rw [mkdirSync_of_can hreaches.noNul.2
          ((canMake_makeDirs_iff fs hcurrent _).mpr hreaches.history)] at he
        cases he
      · rw [run_bind_of_ok (mkdirSync_of_can hnul' hhistory)]
        refine Or.inr ⟨⟨hreport, ⟨hnul, hnul'⟩, hcurrent,
          (canMake_makeDirs_iff fs hcurrent _).mp hhistory⟩, _, ⟨hwrote.trans
            (wrote_makeDirs _ hhistory), fun place => ?_⟩, rfl⟩
        rw [dir_makeDirs_iff, dir_makeDirs_iff, or_assoc]
        rfl

theorem writes_of_cwd {after : FileSystem} (h : after.cwd = fs.cwd) :
    call.writes rt after = call.writes rt fs := by
  rw [ReportCall.writes, ReportCall.currentPlace, ReportCall.historyPlace, h]
  rfl

/-- The three files can be opened once the directories are made. -/
theorem openable_files {made : FileSystem} (hvalid : validName call.name = true)
    (hreaches : call.Reaches fs) (hmade : Made call fs made) :
    ∀ file ∈ call.files rt, Openable made file.1 := by
  have hjson := (json_of_validName hvalid).2
  have hcurrent : made.node (call.currentPlace made) = some .dir := by
    rw [ReportCall.currentPlace, hmade.wrote.cwd]
    exact (hmade.dir_iff _).mpr (Or.inr (Or.inl (List.suffix_refl _)))
  have hhistory : made.node (call.historyPlace made) = some .dir := by
    rw [ReportCall.historyPlace, hmade.wrote.cwd]
    exact (hmade.dir_iff _).mpr (Or.inr (Or.inr (List.suffix_refl _)))
  rw [ReportCall.files, List.forall_mem_cons, List.forall_mem_cons, List.forall_mem_singleton]
  exact ⟨⟨hasNul_join hreaches.noNul.1 hjson, _, _, resolve_currentPath hvalid made, hcurrent⟩,
    ⟨hasNul_join hreaches.noNul.2 hjson, _, _, resolve_historyPath hvalid made, hhistory⟩,
    ⟨hasNul_join hreaches.noNul.2 (by decide), _, _, resolve_manifestPath made, hhistory⟩⟩

theorem reached_eq {made : FileSystem} (hmade : Made call fs made)
    (writes : List (Place × String)) :
    reached made writes = writes.takeWhile (fun write => call.Free fs write.1) := by
  have hfree : ∀ place, made.node place ≠ some .dir ↔ call.Free fs place := by
    intro place
    rw [Ne, hmade.dir_iff, not_or, not_or]
    rfl
  rw [reached]
  simp only [hfree]

/-- A call writes its files up to the first that has a directory in its place, or none. -/
theorem wrote_left (hvalid : validName call.name = true) (fs : FileSystem) :
    (¬ call.Reaches fs ∧ Wrote fs [] (left (writeJsonReport rt call fs))) ∨
    call.Reaches fs ∧ Wrote fs ((call.writes rt fs).takeWhile (fun write => call.Free fs write.1))
      (left (writeJsonReport rt call fs)) := by
  rcases writeJsonReport_cases rt hvalid fs with
    ⟨hnot, e, after, hrun, hwrote⟩ | ⟨hreaches, made, hmade, hrun⟩
  · rw [hrun]
    exact Or.inl ⟨hnot, hwrote⟩
  · have hwrote := wrote_reached (openable_files rt hvalid hreaches hmade)
    rw [reached_eq hmade, writesOf_files rt hvalid, writes_of_cwd rt hmade.wrote.cwd] at hwrote
    rw [hrun, left_bind_pure]
    exact Or.inr ⟨hreaches, hmade.wrote.trans hwrote⟩

/-- A call that returns has written its files. -/
theorem wrote_of_ok {written : WrittenReport} {after : FileSystem}
    (h : writeJsonReport rt call fs = .ok written after) :
    validName call.name = true ∧ written = call.result rt ∧ Wrote fs (call.writes rt fs) after := by
  have hvalid : validName call.name = true := by
    by_contra hname
    rw [writeJsonReport, Bool.eq_false_iff.mpr hname, if_pos (by decide)] at h
    cases h
  rcases writeJsonReport_cases rt hvalid fs with
    ⟨_, e, _, hrun, _⟩ | ⟨_, made, hmade, hrun⟩
  · rw [hrun] at h
    cases h
  · rw [hrun] at h
    obtain ⟨_, between, heach, hpure⟩ := run_bind_eq_ok.mp h
    cases hpure
    have hwrote := wrote_of_writeEach heach
    rw [writesOf_files rt hvalid, writes_of_cwd rt hmade.wrote.cwd] at hwrote
    exact ⟨hvalid, rfl, hmade.wrote.trans hwrote⟩

end Call

end Admissorium.Reports.JsonReport
