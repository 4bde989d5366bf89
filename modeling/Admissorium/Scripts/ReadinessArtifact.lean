import Admissorium.Scripts.ReportBundle

/-!
# The readiness artifact

`v020/compile-readiness-artifact` runs the eight steps as gates and looks for a stored report
bundle that passes. Since a step either ends the whole run or passes, where the two scripts that only
run as the main module are it, the artifact is ready exactly when the bundle is there.
-/
namespace Admissorium.Scripts
set_option autoImplicit false

open JavaScript Json Files Signing Reports.JsonReport

/-! ## The script -/

/-- `path.relative(from, to)` of two absolute paths: up to what both share, and down again. -/
def relative (start target : String) : String :=
  let above := (resolve [] start).reverse
  let below := (resolve [] target).reverse
  let shared := ((above.zip below).takeWhile (fun pair => pair.1 = pair.2)).length
  "/".intercalate (List.replicate (above.length - shared) ".." ++ below.drop shared)

/-- The gate of a command or of a file. -/
structure Gate where
  id : String
  source : String × String
  expected_token : String
  passed : Bool

def Gate.fields (gate : Gate) : Fields :=
  [("id", .str gate.id), (gate.source.1, .str gate.source.2),
    ("expected_token", .str gate.expected_token), ("passed", .bool gate.passed),
    ("writer_enabled", .bool false), ("network_required", .bool false),
    ("token_persistence_enabled", .bool false), ("operational_writer_enabled", .bool false)]

/-- The ids of the gates that run a step. -/
def gateIds : List String :=
  ["schema_validation", "classifier_comparator", "actuator_verdict_receipt", "quarantine_repair",
    "operator_review_bundle", "test_mode_writer_simulation", "webhook_signature_verification",
    "hostile_fixture_battery"]

def runGate (npm : String → Fs Outcome) (gate : String × (String × String)) : Fs Gate := do
  let command := "npm run " ++ gate.2.1
  let output ← execFileSync command (npm gate.2.1)
  return ⟨gate.1, ("command", command), gate.2.2, Text.includes output gate.2.2⟩

def assertFileGate (root id filePath token : String) : Fs Gate := do
  let absolute := join [root, filePath]
  let there ← existsSync absolute
  let text ← if there then readFileSync absolute else pure ""
  return ⟨id, ("file", filePath), token, there && Text.includes text token⟩

def bundleFile : String := "reports/current/admissorium-v020-report-bundle.json"

def bundleToken : String := "ADMISSORIUM_V020_REPORT_BUNDLE_PASS"

def failedGates (gates : List Gate) : List Gate := gates.filter (fun gate => !gate.passed)

def gateTotals (gates : List Gate) : Fields :=
  [("total_gates", .num (gates.length : Nat)),
    ("passed_gates", .num ((gates.filter Gate.passed).length : Nat)),
    ("failed_gates", .num ((failedGates gates).length : Nat))]

def readinessPayload (gates : List Gate) : Fields :=
  [("artifact", .str "ADMISSORIUM_V020_READINESS_ARTIFACT"), ("schema_version", .str "0.2.0"),
    ("state", .str (if (failedGates gates).length = 0 then "ADMISSORIUM_V020_READINESS_ARTIFACT_PASS"
      else "ADMISSORIUM_V020_READINESS_ARTIFACT_FAIL")),
    ("truth_warning", .str "NOT_TRUTH_SOURCE"), ("completion_claim", .bool false),
    ("readiness_scope", .str "report-only sealed admissibility control plane"),
    ("ready_for", .arr (["operator review", "report writers",
      "history-bound local readiness evidence"].map .str)),
    ("not_ready_for", .arr (["real GitHub writer", "check-run writer", "pull-request writer",
      "issue writer", "package publish", "repository content mutation", "protected truth mutation",
      "VERIFRAX system completion claim"].map .str))] ++
  ["writer_enabled", "webhook_runtime_enabled", "check_run_writer_enabled",
    "pull_request_writer_enabled", "issue_writer_enabled", "package_publish_enabled",
    "contents_write_enabled", "operational_writer_enabled", "network_required",
    "token_persistence_enabled", "allowed_to_mutate_truth"].map (fun flag => (flag, .bool false)) ++
  [("gates", .arr (gates.map (fun gate => .obj gate.fields))), ("totals", .obj (gateTotals gates))]

/-- `sha256(stable(payload))`; the script spells the canonical text out once more. -/
def payloadHash (rt : Runtime) (payload : Fields) : String :=
  rt.sha256 ((stableJson rt (.obj payload)).getD "undefined")

def readinessArtifact (rt : Runtime) (gates : List Gate) : Fields :=
  readinessPayload gates ++
    [("payload_hash_sha256", .str (payloadHash rt (readinessPayload gates))),
      ("local_signature", .obj [
        ("algorithm", .str "sha256-local-deterministic-readiness-seal"),
        ("production_signature", .bool false),
        ("signature", .str (rt.sha256 ("ADMISSORIUM_V020_READINESS_ARTIFACT::" ++
          payloadHash rt (readinessPayload gates))))])]

def readinessName : String := "admissorium-v020-readiness"

def readinessHistoryDir (root : String) (stamp : Instant) : String :=
  join [root, "reports/history/" ++ SnapshotKind.readiness.dirName stamp]

def readinessManifest (rt : Runtime) (root : String) (stamp : Instant) (gates : List Gate) :
    Fields :=
  [("artifact", .str "ADMISSORIUM_V020_READINESS_ARTIFACT"),
    ("current", .str "reports/current/admissorium-v020-readiness.json"),
    ("history_snapshot", .str (relative root (readinessHistoryDir root stamp))),
    ("payload_hash_sha256", .str (payloadHash rt (readinessPayload gates))),
    ("completion_claim", .bool false), ("operational_writer_enabled", .bool false)]

def readinessOutcome (m : Machine) (gates : List Gate) : Outcome :=
  if (failedGates gates).length > 0 then ⟨"", 1⟩
  else ⟨printed m "ADMISSORIUM_V020_READINESS_ARTIFACT_PASS=true" (gateTotals gates), 0⟩

/-- The files of a run. -/
def readinessTasks (m : Machine) (root : String) (stamp : Instant) (gates : List Gate) :
    List FileTask :=
  [.make (join [root, "reports/current"]),
    .write (join [root, "reports/current/admissorium-v020-readiness.json"])
      (storedJson m (.obj (readinessArtifact m.rt gates))),
    .make (readinessHistoryDir root stamp),
    .write (join [readinessHistoryDir root stamp, "admissorium-v020-readiness.json"])
      (storedJson m (.obj (readinessArtifact m.rt gates))),
    .write (join [readinessHistoryDir root stamp, "manifest.json"])
      (storedJson m (.obj (readinessManifest m.rt root stamp gates)))]

/-- `src/v020/compile-readiness-artifact.js`. -/
def compileReadinessArtifact (m : Machine) (npm : String → Fs Outcome) (stamp : Instant) :
    Fs Outcome := do
  let root ← processCwd
  let steps ← (gateIds.zip STEPS).mapM (runGate npm)
  let bundle ← assertFileGate root "report_writers_history_binding" bundleFile bundleToken
  runTasks (readinessTasks m root stamp (steps ++ [bundle]))
  return readinessOutcome m (steps ++ [bundle])

/-! ## The places of a run -/

section Places
variable {cwd : Place} {root : String} {stamp : Instant} {gates : List Gate} {m : Machine}

/-- A path below the directory a script is run in. -/
theorem resolve_rooted (h : Named cwd) (path : String) :
    resolve cwd (join [cwdPath cwd, path]) = follow cwd path := by
  rw [resolve_join_cons cwd (cwdPath_ne_empty cwd), resolve_cwdPath cwd h, List.foldl_cons,
    List.foldl_nil]

theorem hasNul_rooted (h : Named cwd) {path : String} (hpath : hasNul path = false) :
    hasNul (join [cwdPath cwd, path]) = false := hasNul_join (hasNul_cwdPath h) hpath

theorem resolve_readinessHistoryDir (h : Named cwd) :
    resolve cwd (readinessHistoryDir (cwdPath cwd) stamp) = snapshotPlace cwd .readiness stamp := by
  rw [readinessHistoryDir, resolve_rooted h]
  exact follow_snapshotDir

theorem hasNul_readinessHistoryDir (h : Named cwd) :
    hasNul (readinessHistoryDir (cwdPath cwd) stamp) = false := hasNul_rooted h hasNul_snapshotDir

theorem stores_readinessTasks (h : Named cwd) :
    Stores cwd readinessName .readiness stamp [readinessName ++ ".json", "manifest.json"]
      (readinessTasks m (cwdPath cwd) stamp gates) := by
  have hname : IsName (readinessName ++ ".json") := by decide
  have hmanifest : IsName "manifest.json" := by decide
  have hdir : resolve cwd (join [cwdPath cwd, "reports/current"]) = currentDir cwd :=
    resolve_rooted h _
  have hreport : resolve cwd (join [cwdPath cwd, "reports/current/admissorium-v020-readiness.json"]) =
      (readinessName ++ ".json") :: currentDir cwd := resolve_rooted h _
  have hhistory := @resolve_readinessHistoryDir cwd stamp h
  have hkept : resolve cwd (join [readinessHistoryDir (cwdPath cwd) stamp,
      "admissorium-v020-readiness.json"]) =
        (readinessName ++ ".json") :: snapshotPlace cwd .readiness stamp := by
    rw [← hhistory]
    exact resolve_join cwd (join_ne_empty _) hname
  have hlast : resolve cwd (join [readinessHistoryDir (cwdPath cwd) stamp, "manifest.json"]) =
      "manifest.json" :: snapshotPlace cwd .readiness stamp := by
    rw [← hhistory]
    exact resolve_join cwd (join_ne_empty _) hmanifest
  have hnul := @hasNul_readinessHistoryDir cwd stamp h
  have hmade : madeBy cwd (readinessTasks m (cwdPath cwd) stamp gates) =
      [currentDir cwd, snapshotPlace cwd .readiness stamp] := by
    simp only [readinessTasks, madeBy, hdir, hhistory]
  constructor
  · refine ⟨hasNul_rooted h (by decide), hasNul_rooted h (by decide), ⟨_, _, ?_, hreport⟩, hnul,
      hasNul_join hnul (by decide), ⟨_, _, ?_, hkept⟩, hasNul_join hnul (by decide),
      ⟨_, _, ?_, hlast⟩, trivial⟩
    · rw [hdir]
      exact List.mem_cons_self
    · rw [hhistory]
      exact List.mem_cons_of_mem _ List.mem_cons_self
    · rw [hhistory]
      exact List.mem_cons_of_mem _ List.mem_cons_self
  · rw [hmade, List.forall_mem_cons, List.forall_mem_singleton]
    exact ⟨Or.inl rfl, Or.inr (Or.inr rfl)⟩
  · rw [hmade]
    exact List.mem_cons_self
  · rw [hmade]
    exact List.mem_cons_of_mem _ List.mem_cons_self
  · simp only [readinessTasks, writtenBy, hreport, hkept, hlast, List.map_cons, List.map_nil]
    rfl

end Places

/-! ## Gates -/

section Gates
variable {m : Machine} {npm : String → Fs Outcome} {clocks : Clocks} {cwd : Place}
  {own : Set Place} {fs after : FileSystem}

/-- A report bundle that passes is among the current reports. -/
def HoldsBundle (fs : FileSystem) : Prop :=
  ∃ text, fs.text (currentPlace fs.cwd bundleName) = some text ∧
    Text.includes text bundleToken = true

theorem snd_mem_steps {gate : String × (String × String)} (h : gate ∈ gateIds.zip STEPS) :
    gate.2 ∈ STEPS := (List.of_mem_zip h).2

theorem within_runGate (h : RunsScripts m clocks cwd own npm) : ∀ gate ∈ gateIds.zip STEPS,
    Within cwd ((stepsReach clocks).places cwd ∪ own) (runGate npm gate) :=
  fun gate hgate => within_bind (within_execFileSync (within_allSteps h gate.2 (snd_mem_steps hgate)))
    (fun _ => within_pure _)

theorem within_gates (h : RunsScripts m clocks cwd own npm) :
    Within cwd ((stepsReach clocks).places cwd ∪ own) ((gateIds.zip STEPS).mapM (runGate npm)) :=
  within_mapM (within_runGate h)

theorem passed_of_runGate (h : RunsScripts m clocks cwd own npm) (hmains : Mains m cwd)
    {gate : String × (String × String)} {result : Gate} (hstep : gate.2 ∈ STEPS) (hcwd : fs.cwd = cwd)
    (hrun : runGate npm gate fs = .ok result after) : result.passed = true := by
  obtain ⟨output, between, hchild, hpure⟩ := run_bind_eq_ok.mp hrun
  obtain ⟨rfl, _⟩ := pure_eq_ok.mp hpure
  exact prints_step h hmains _ hstep fs output _ hcwd (execFileSync_eq_ok.mp hchild)

theorem passed_of_gates (h : RunsScripts m clocks cwd own npm) (hmains : Mains m cwd)
    {gates : List Gate} (hcwd : fs.cwd = cwd)
    (hrun : (gateIds.zip STEPS).mapM (runGate npm) fs = .ok gates after) :
    ∀ gate ∈ gates, gate.passed = true := by
  have hall : List.Forall₂ (fun _ (gate : Gate) => gate.passed = true) (gateIds.zip STEPS) gates :=
    forall₂_of_mapM (within_runGate h) (fun _ hgate _ _ _ hcwd hrun =>
      passed_of_runGate h hmains (snd_mem_steps hgate) hcwd hrun) hcwd hrun
  intro gate hgate
  obtain ⟨_, _, hpassed⟩ := exists_of_forall₂_right hall hgate
  exact hpassed

theorem within_assertFileGate {touched : Set Place} (root id filePath token : String) :
    Within cwd touched (assertFileGate root id filePath token) :=
  within_bind (within_existsSync _) (fun _ =>
    within_ite (within_bind (within_readFileSync _) (fun _ => within_pure _))
      (within_bind (within_pure _) (fun _ => within_pure _)))

/-- The gate of the bundle looks at one file, and throws where that is a directory. -/
theorem bundleGate_eq_ok_iff (h : Named fs.cwd) {id : String} :
    ((∃ gate, assertFileGate (cwdPath fs.cwd) id bundleFile bundleToken fs = .ok gate fs) ↔
      fs.node (currentPlace fs.cwd bundleName) ≠ some .dir) ∧
    ∀ gate, assertFileGate (cwdPath fs.cwd) id bundleFile bundleToken fs = .ok gate after →
      (gate.passed = true ↔ HoldsBundle fs) ∧ after = fs := by
  have hplace : resolve fs.cwd (join [cwdPath fs.cwd, bundleFile]) = currentPlace fs.cwd bundleName :=
    resolve_rooted h _
  have hnul : hasNul (join [cwdPath fs.cwd, bundleFile]) = false := hasNul_rooted h (by decide)
  have hslash : Text.endsWith (join [cwdPath fs.cwd, bundleFile]) "/" = false := by
    have hname : IsName (bundleName ++ ".json") := by decide
    have hjoin : join [cwdPath fs.cwd, bundleFile] =
        Files.normalize (cwdPath fs.cwd ++ "/reports/current" ++ "/" ++ (bundleName ++ ".json")) :=
      (join_two (cwdPath_ne_empty fs.cwd) (by decide)).trans (congrArg Files.normalize
        (by rw [String.append_assoc, String.append_assoc, String.append_assoc]; rfl))
    rw [hjoin]
    exact endsWith_normalize hname _
  cases hnode : fs.node (currentPlace fs.cwd bundleName) with
  | none =>
      have hthere : existsSync (join [cwdPath fs.cwd, bundleFile]) fs = .ok false fs := by
        rw [existsSync, hplace, hnode, Bool.and_false]
      have hrun : assertFileGate (cwdPath fs.cwd) id bundleFile bundleToken fs =
          .ok ⟨id, ("file", bundleFile), bundleToken, false⟩ fs := by
        rw [assertFileGate, run_bind_of_ok hthere]
        rfl
      rw [hrun]
      refine ⟨iff_of_true ⟨_, rfl⟩ (Option.some_ne_none _).symm, fun gate hgate => ?_⟩
      rw [EStateM.Result.ok.injEq] at hgate
      obtain ⟨rfl, rfl⟩ := hgate
      refine ⟨iff_of_false Bool.false_ne_true (fun hholds => ?_), rfl⟩
      obtain ⟨text, htext, _⟩ := hholds
      rw [FileSystem.text_eq_some_iff, hnode] at htext
      cases htext
  | some node =>
      cases node with
      | dir =>
          have hthere : existsSync (join [cwdPath fs.cwd, bundleFile]) fs = .ok true fs :=
            existsSync_of_dir hnul (hplace.symm ▸ hnode)
          have hthrow : ∀ gate last,
              assertFileGate (cwdPath fs.cwd) id bundleFile bundleToken fs ≠ .ok gate last := by
            intro gate last hrun
            rw [assertFileGate, run_bind_of_ok hthere, if_pos rfl] at hrun
            obtain ⟨text, between, hread, _⟩ := run_bind_eq_ok.mp hrun
            obtain ⟨⟨_, htext⟩, _⟩ := readFileSync_eq_ok.mp hread
            rw [hplace, FileSystem.text_eq_some_iff, hnode] at htext
            cases htext
          refine ⟨iff_of_false (fun hrun => ?_) (not_not_intro rfl),
            fun gate hrun => absurd hrun (hthrow gate after)⟩
          obtain ⟨gate, hrun⟩ := hrun
          exact hthrow gate fs hrun
      | file text =>
          have htext : fs.text (currentPlace fs.cwd bundleName) = some text :=
            FileSystem.text_eq_some_iff.mpr hnode
          have hthere : existsSync (join [cwdPath fs.cwd, bundleFile]) fs = .ok true fs := by
            rw [existsSync, hplace, hnode, hnul, hslash]
            rfl
          have hread : readFileSync (join [cwdPath fs.cwd, bundleFile]) fs = .ok text fs :=
            readFileSync_eq_ok.mpr ⟨⟨hnul, hplace.symm ▸ htext⟩, rfl⟩
          have hrun : assertFileGate (cwdPath fs.cwd) id bundleFile bundleToken fs =
              .ok ⟨id, ("file", bundleFile), bundleToken, Text.includes text bundleToken⟩ fs := by
            rw [assertFileGate, run_bind_of_ok hthere, if_pos rfl, run_bind_of_ok hread]
            rfl
          rw [hrun]
          refine ⟨iff_of_true ⟨_, rfl⟩ (by simp), fun gate hgate => ?_⟩
          rw [EStateM.Result.ok.injEq] at hgate
          obtain ⟨rfl, rfl⟩ := hgate
          refine ⟨⟨fun hpassed => ⟨text, htext, hpassed⟩, fun hholds => ?_⟩, rfl⟩
          obtain ⟨other, hother, hincludes⟩ := hholds
          rw [htext, Option.some.injEq] at hother
          exact hother ▸ hincludes

theorem failedGates_eq_nil_iff {gates : List Gate} :
    failedGates gates = [] ↔ ∀ gate ∈ gates, gate.passed = true := by
  rw [failedGates, List.filter_eq_nil_iff]
  simp only [Bool.not_eq_true, Bool.not_eq_false']

end Gates

end Admissorium.Scripts
