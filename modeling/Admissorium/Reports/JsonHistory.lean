import Admissorium.Reports.JsonReport

/-!
# The history of JSON reports

Report and run share the name of a history directory, and a hyphen between them is a character
that both may hold. Two calls that are told apart by name and run can therefore meet in one
directory, and a run id may lead from there into the directory of the current reports. What the
first call stored stays as it was exactly when the second one does not get to write there.
-/
namespace Admissorium.Reports.JsonReport
set_option autoImplicit false

open JavaScript Json Files

/-! ## What tells the texts apart -/

section Texts
variable {rt : Runtime} {first second : ReportCall}

theorem isJson_manifest (call : ReportCall) : IsJson (.obj (call.manifest rt)) := by
  have hkeys : ((call.manifest rt).map Prod.fst).Nodup := by
    have hnames : (call.manifest rt).map Prod.fst = "manifest" :: reportOnlyFields.map Prod.fst ++
        ["run_id", "current_path", "history_path", "report_name", "report_sha256",
          "payload_hash_sha256"] := rfl
    rw [hnames]
    decide
  rw [isJson_obj]
  refine ⟨hkeys, ?_⟩
  simp [ReportCall.manifest, reportOnlyFields, IsJson]

/-- A manifest is read back as it is. -/
theorem parse_manifestText (rt : Runtime) (read : String → Option Number) (call : ReportCall) :
    Json.parse read (call.manifestText rt) = .ok (.obj (call.manifest rt)) := by
  have hnumbers : numbersOf (.obj (call.manifest rt)) = [] := rfl
  apply parse_prettyOf (isJson_manifest call)
  rw [hnumbers]
  exact nofun

theorem manifestText_inj (h : first.manifestText rt = second.manifestText rt) :
    first.runId = second.runId ∧ first.name = second.name := by
  have hparse := parse_manifestText rt (fun _ => none) first
  rw [h, parse_manifestText] at hparse
  have hsame : second.manifest rt = first.manifest rt := Value.obj.inj (Except.ok.inj hparse)
  have hget : ∀ key, (Value.obj (second.manifest rt)).get key = (Value.obj (first.manifest rt)).get key :=
    fun key => congrArg (fun fields => (Value.obj fields).get key) hsame
  exact ⟨(Value.str.inj (hget "run_id")).symm, (Value.str.inj (hget "report_name")).symm⟩

theorem serialized_ne_manifestText (call other : ReportCall) :
    call.serialized rt ≠ other.manifestText rt := by
  intro h
  have hkeys := (@next_string rt 0 [] _ _ _ _ _ _ ((String.append_left_inj "\n").mp h)).1
  exact absurd hkeys (by decide)

/-- The texts of two reports differ in the run ids at least. -/
theorem runId_of_serialized (h : first.serialized rt = second.serialized rt) :
    first.runId = second.runId := by
  have htexts := (String.append_left_inj "\n").mp h
  have hstart : ∀ call : ReportCall, call.envelope rt =
      ("report_writer", .str "ADMISSORIUM_LOCAL_JSON_REPORT_WRITER") :: reportOnlyFields ++
        ("generated_at", .str call.generated_at) :: ("run_id", .str call.runId) ::
          ("report", call.report) :: [("payload_hash_sha256", .str (call.payload_hash_sha256 rt))] :=
    fun _ => rfl
  rw [hstart, hstart] at htexts
  have htime := (next_string htexts).2
  rw [htime, List.append_cons _ ("generated_at", _), List.append_cons _ ("generated_at", _)] at htexts
  exact (next_string htexts).2

end Texts

/-! ## Two calls -/

/-- The call leaves the history report and the manifest of another one as they are. -/
def KeepsHistory (rt : Runtime) (written : WrittenReport) (call : ReportCall) (fs : FileSystem) :
    Prop :=
  ∀ path ∈ [written.historyPath, written.manifestPath],
    (left (writeJsonReport rt call fs)).text (resolve fs.cwd path) =
      fs.text (resolve fs.cwd path)

/-- The second call gets to write in the history directory of the first: it shares it, or it has
its current reports there and one of the two names. -/
structure Overwrites (first second : ReportCall) (fs : FileSystem) : Prop where
  reaches : second.Reaches fs
  current : second.Free fs ((second.name ++ ".json") :: second.currentPlace fs)
  meets : (second.historyPlace fs = first.historyPlace fs ∧
      second.Free fs ((second.name ++ ".json") :: second.historyPlace fs)) ∨
    (second.currentPlace fs = first.historyPlace fs ∧
      (second.name = first.name ∨ second.name = "manifest"))

section Calls
variable {rt : Runtime} {first second : ReportCall} {fs between : FileSystem}

theorem name_of_json {name other : String} (h : name ++ ".json" = other ++ ".json") : name = other :=
  (String.append_left_inj ".json").mp h

theorem manifest_json : "manifest" ++ ".json" = "manifest.json" := by decide

theorem keepsHistory_iff_places (hfirst : validName first.name = true) (fs : FileSystem) :
    KeepsHistory rt (first.result rt) second fs ↔
      ∀ name ∈ [first.name ++ ".json", "manifest.json"],
        (left (writeJsonReport rt second fs)).text (name :: first.historyPlace fs) =
          fs.text (name :: first.historyPlace fs) := by
  rw [KeepsHistory, ReportCall.result, List.forall_mem_cons, List.forall_mem_singleton,
    resolve_historyPath hfirst, resolve_manifestPath, List.forall_mem_cons,
    List.forall_mem_singleton]

/-- Nothing is stored in the history before the report is. -/
theorem history_of_mem {call : ReportCall} {place : Place} (h : place ∈
      ([((call.name ++ ".json") :: call.historyPlace fs, call.serialized rt),
        ("manifest.json" :: call.historyPlace fs, call.manifestText rt)].takeWhile
          (fun write => call.Free fs write.1)).map Prod.fst) :
    call.Free fs ((call.name ++ ".json") :: call.historyPlace fs) ∧
      ∃ name, place = name :: call.historyPlace fs := by
  by_cases hfree : call.Free fs ((call.name ++ ".json") :: call.historyPlace fs)
  · obtain ⟨write, hwrite, rfl⟩ := List.mem_map.mp h
    have hlisted := (List.takeWhile_prefix _).subset hwrite
    rw [List.mem_cons, List.mem_singleton] at hlisted
    rcases hlisted with rfl | rfl
    · exact ⟨hfree, _, rfl⟩
    · exact ⟨hfree, _, rfl⟩
  · rw [List.takeWhile_cons_of_neg (by simpa using hfree)] at h
    cases h

/-- A call that does not get to write in the directory leaves it as it is. -/
theorem keepsHistory_of_not_overwrites (hfirst : validName first.name = true)
    (hsecond : validName second.name = true) (h : ¬ Overwrites first second fs) :
    KeepsHistory rt (first.result rt) second fs := by
  rw [keepsHistory_iff_places hfirst]
  rcases wrote_left rt hsecond fs with ⟨_, hwrote⟩ | ⟨hreaches, hwrote⟩
  · exact fun name _ => hwrote.text_of_not_mem List.not_mem_nil
  intro name hname
  refine hwrote.text_of_not_mem fun hmem => h ?_
  rw [ReportCall.writes] at hmem
  by_cases hcurrent : second.Free fs ((second.name ++ ".json") :: second.currentPlace fs)
  · rw [List.takeWhile_cons_of_pos (by simpa using hcurrent), List.map_cons] at hmem
    rcases List.mem_cons.mp hmem with hplace | hmem
    · obtain ⟨hsame, hdir⟩ := List.cons.inj hplace
      refine ⟨hreaches, hcurrent, Or.inr ⟨hdir.symm, ?_⟩⟩
      rw [hsame, List.mem_cons, List.mem_singleton] at hname
      exact hname.imp name_of_json name_of_json
    · obtain ⟨hfree, other, hplace⟩ := history_of_mem hmem
      exact ⟨hreaches, hcurrent, Or.inl ⟨(List.cons.inj hplace).2.symm, hfree⟩⟩
  · rw [List.takeWhile_cons_of_neg (by simpa using hcurrent)] at hmem
    cases hmem

/-- What a call that returns has in its history. -/
structure Stored (rt : Runtime) (call : ReportCall) (fs : FileSystem) : Prop where
  report : call.name ≠ "manifest" →
    fs.text ((call.name ++ ".json") :: call.historyPlace fs) = some (call.serialized rt)
  manifest : fs.text ("manifest.json" :: call.historyPlace fs) = some (call.manifestText rt)

theorem stored_of_wrote (h : Wrote fs (first.writes rt fs) between) : Stored rt first between := by
  rw [← writes_of_cwd rt h.cwd, ReportCall.writes] at h
  refine ⟨fun hname => h.text_of_last [_] ?_,
    h.text_of_last [_, _] List.not_mem_nil⟩
  rw [List.map_singleton, List.mem_singleton]
  exact fun hplace => hname (name_of_json (List.cons.inj hplace).1)

/-- Files are never in the way of what a call writes. -/
theorem free_of_text (hreaches : second.Reaches fs) {place : Place} {text : String}
    (h : fs.text place = some text) : second.Free fs place := by
  refine ⟨fun hdir => ?_, fun hsuffix => ?_, fun hsuffix => ?_⟩
  · rw [FileSystem.text_eq_none_of_dir hdir] at h
    cases h
  · rw [hreaches.current place ((List.mem_tails _ _).mpr hsuffix)] at h
    cases h
  · rw [hreaches.history place ((List.mem_tails _ _).mpr hsuffix)] at h
    cases h

theorem not_keepsHistory_of_overwrites (hfirst : validName first.name = true)
    (hsecond : validName second.name = true) (hstored : Stored rt first fs)
    (hdiffer : (first.name, first.runId) ≠ (second.name, second.runId))
    (h : Overwrites first second fs) : ¬ KeepsHistory rt (first.result rt) second fs := by
  intro hkeeps
  rw [keepsHistory_iff_places hfirst, List.forall_mem_cons, List.forall_mem_singleton] at hkeeps
  obtain ⟨hreport, hmanifest⟩ := hkeeps
  rcases wrote_left rt hsecond fs with ⟨hnot, _⟩ | ⟨_, hwrote⟩
  · exact hnot h.reaches
  rw [ReportCall.writes, List.takeWhile_cons_of_pos (by simpa using h.current)] at hwrote
  by_cases hshared : second.historyPlace fs = first.historyPlace fs ∧
      second.Free fs ((second.name ++ ".json") :: second.historyPlace fs)
  · obtain ⟨hdir, hfree⟩ := hshared
    have hthere := hstored.manifest
    rw [← hdir] at hthere
    rw [List.takeWhile_cons_of_pos (by simpa using hfree), List.takeWhile_cons_of_pos
      (by simpa using free_of_text h.reaches hthere), List.takeWhile_nil] at hwrote
    have htext := hwrote.text_of_last [_, _] List.not_mem_nil
    rw [hdir, hmanifest, hstored.manifest] at htext
    obtain ⟨hrun, hname⟩ := manifestText_inj (Option.some.inj htext)
    exact hdiffer (Prod.ext hname hrun)
  · obtain ⟨hdir, hnames⟩ := h.meets.resolve_left hshared
    have htext := hwrote.text_of_last [] fun hmem => by
      obtain ⟨hfree, name, hplace⟩ := history_of_mem hmem
      exact hshared ⟨((List.cons.inj hplace).2.symm.trans hdir), hfree⟩
    rw [hdir] at htext
    by_cases hname : second.name = "manifest"
    · rw [hname, manifest_json, hmanifest, hstored.manifest] at htext
      exact serialized_ne_manifestText second first (Option.some.inj htext).symm
    · have hsame := hnames.resolve_right hname
      rw [hsame] at hname htext
      rw [hreport, hstored.report hname] at htext
      exact hdiffer (Prod.ext hsame.symm (runId_of_serialized (Option.some.inj htext)))

/-- The history that a call has stored outlasts another one, told apart from it by name or by
run, exactly when that does not get to write there. -/
theorem keepsHistory_iff {written : WrittenReport}
    (hrun : writeJsonReport rt first fs = .ok written between)
    (hsecond : validName second.name = true)
    (hdiffer : (first.name, first.runId) ≠ (second.name, second.runId)) :
    KeepsHistory rt written second between ↔ ¬ Overwrites first second between := by
  obtain ⟨hfirst, rfl, hwrote⟩ := wrote_of_ok rt hrun
  refine ⟨fun hkeeps h => ?_, keepsHistory_of_not_overwrites hfirst hsecond⟩
  exact not_keepsHistory_of_overwrites hfirst hsecond (stored_of_wrote hwrote) hdiffer h hkeeps

end Calls

/-! ## A directory that two calls share -/

def noFiles : FileSystem := .ofList [] (by decide)

def smallReport : Value := .obj [("state", .str "PASS")]

def reportCall : ReportCall :=
  ⟨"report", smallReport, ".", "bundle-1", "2026-01-01T00:00:00.000Z"⟩

def bundleCall : ReportCall :=
  ⟨"report-bundle", smallReport, ".", "1", "2026-01-02T00:00:00.000Z"⟩

/-- What the first of the two leaves. -/
def afterReport : FileSystem := left (writeJsonReport .ascii reportCall noFiles)

def succeeds {α : Type} : EStateM.Result JsError FileSystem α → Bool
  | .ok _ _ => true
  | .error _ _ => false

theorem eq_ok_of_succeeds {rt : Runtime} {call : ReportCall} {fs : FileSystem}
    (h : succeeds (writeJsonReport rt call fs) = true) :
    writeJsonReport rt call fs = .ok (call.result rt) (left (writeJsonReport rt call fs)) := by
  cases hrun : writeJsonReport rt call fs with
  | error e after =>
      rw [hrun] at h
      cases h
  | ok written after =>
      rw [(wrote_of_ok rt hrun).2.1]
      rfl

theorem reportCall_ok :
    writeJsonReport .ascii reportCall noFiles = .ok (reportCall.result .ascii) afterReport :=
  eq_ok_of_succeeds (by decide +kernel)

theorem overwrites_bundleCall : Overwrites reportCall bundleCall afterReport where
  reaches := ⟨rfl, by decide +kernel, by decide +kernel, by decide +kernel⟩
  current := by decide +kernel
  meets := Or.inl (by decide +kernel)

theorem keepsHistory_iff_bundleCall :
    KeepsHistory .ascii (reportCall.result .ascii) bundleCall afterReport ↔
      ¬ Overwrites reportCall bundleCall afterReport :=
  keepsHistory_iff reportCall_ok (by decide) (by decide)

/-- The manifest of the report is gone. -/
theorem bundleCall_not_keepsHistory :
    writeJsonReport .ascii reportCall noFiles = .ok (reportCall.result .ascii) afterReport ∧
      validName bundleCall.name = true ∧
      (reportCall.name, reportCall.runId) ≠ (bundleCall.name, bundleCall.runId) ∧
      ¬ KeepsHistory .ascii (reportCall.result .ascii) bundleCall afterReport := by
  have hdiffer : (reportCall.name, reportCall.runId) ≠ (bundleCall.name, bundleCall.runId) := by
    decide
  exact ⟨reportCall_ok, by decide, hdiffer, not_keepsHistory_of_overwrites (by decide) (by decide)
    (stored_of_wrote (wrote_of_ok .ascii reportCall_ok).2.2) hdiffer overwrites_bundleCall⟩

end Admissorium.Reports.JsonReport
