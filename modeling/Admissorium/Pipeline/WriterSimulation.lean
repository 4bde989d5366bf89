import Admissorium.Pipeline.QuarantineSuite

/-!
# Review and simulated writing

`src/operator` turns the suite into cases for an operator, and `src/writer-sim` turns the
cases into packets a writer would send. Every stage maps or filters the list of the one
before; a packet also writes the candidate's id into a text.
-/
namespace Admissorium.Pipeline.WriterSimulation
set_option autoImplicit false

open JavaScript Classify Signing Verdict Verdict.Admission QuarantineSuite

/-! ## The operator's cases -/

def caseFields (r : Value) : Fields :=
  [("candidate_id", r.get "candidate_id"), ("file", r.get "file"), ("risk", r.get "risk"),
    ("verdict_state", r.get "verdict_state"), ("quarantine_required", r.get "quarantine_required"),
    ("quarantine_route", r.get "quarantine_route"), ("repair_mode", r.get "repair_mode"),
    ("quarantine_hash", (r.get "quarantine").get "canonical_hash"),
    ("repair_packet_hash", (r.get "repair_packet").get "canonical_hash"),
    ("operator_action", .str (if quarantineRequired r then "REVIEW_PRIVATE_QUARANTINE"
      else "ACK_REPORT_ONLY_PASS"))]

def compileCase (r : Value) : Except JsError Value := do
  let _ ← r.prop "candidate_id"
  return .obj (caseFields r)

def bundleFields (quarantineSuite generated_at : Value) (cases : List Value) : Fields :=
  [("bundle_type", .str "ADMISSORIUM_OPERATOR_REVIEW_BUNDLE"), ("schema_version", .str "1.0.0"),
    ("generated_at", generated_at), ("mode", .str "OPERATOR_REVIEW_ONLY")] ++ boundaryFields ++
  [("completion_warning", .str "This bundle does not make VERIFRAX_SYSTEM_COMPLETE true."),
    ("total", quarantineSuite.get "total"), ("quarantined", quarantineSuite.get "quarantined"),
    ("passed_without_quarantine", quarantineSuite.get "passed_without_quarantine"),
    ("failed", quarantineSuite.get "failed")] ++ idleWriters ++
  [("allowed_operator_actions", texts ["read_bundle", "review_private_quarantine",
      "acknowledge_report_only_pass", "request_manual_followup_outside_admissorium"]),
    ("forbidden_automated_actions", texts ["open_issue", "open_pull_request", "write_check_run",
      "call_webhook", "push_branch", "write_main", "publish_package", "persist_secret",
      "mutate_truth", "decide_truth"]),
    ("cases", .arr cases)]

def compileOperatorReviewBundle (rt : Runtime) (quarantineSuite : Value)
    (options : CompileOptions) : Except JsError Value := do
  let results ← (← quarantineSuite.prop "results").asArray
  let cases ← results.mapM compileCase
  signObject rt (bundleFields quarantineSuite (generatedAt options quarantineSuite) cases)
    options.signing_seed

/-! ## The packets -/

def offlineWriters : Fields :=
  ["writer_enabled", "network_enabled", "token_required", "webhook_enabled",
    "check_run_writer_enabled", "pr_writer_enabled", "issue_writer_enabled",
    "package_publish_enabled", "contents_write_enabled", "main_write_enabled",
    "allowed_to_mutate_truth"].map (fun key => (key, .bool false))

def envelopeFields (kind : String) (candidate generated_at : Value) (payload : Fields) : Fields :=
  [("packet_type", .str "ADMISSORIUM_TEST_MODE_WRITER_INTENT"), ("schema_version", .str "1.0.0"),
    ("generated_at", generated_at), ("kind", .str kind),
    ("candidate_id", candidate.get "candidate_id"), ("file", candidate.get "file"),
    ("mode", .str "TEST_MODE_NO_SIDE_EFFECTS"), ("truth_warning", .str "NOT_TRUTH_SOURCE"),
    ("completion_warning",
      .str "This packet does not write GitHub, mutate truth, or complete VERIFRAX."),
    ("dry_run", .bool true), ("simulated", .bool true), ("executed", .bool false),
    ("stdout_only", .bool true)] ++ offlineWriters ++
  [("external_target", .str "NONE"), ("payload", .obj payload)]

def noWriterEnvelope (rt : Runtime) (kind : String) (candidate generated_at : Value)
    (payload : Fields) : Except JsError Value := do
  let _ ← candidate.prop "candidate_id"
  signObject rt (envelopeFields kind candidate generated_at payload) .undefined

/-- `${c.key}`. -/
def templated (rt : Runtime) (c : Value) (key : String) : Except JsError String :=
  (c.get key).toText rt

def checkRunPacket (rt : Runtime) (generated_at c : Value) : Except JsError Value := do
  let summary := "candidate=" ++ (← templated rt c "candidate_id") ++ " risk=" ++
    (← templated rt c "risk") ++ " verdict=" ++ (← templated rt c "verdict_state")
  let required := quarantineRequired c
  noWriterEnvelope rt "SIMULATED_CHECK_RUN_SUMMARY" c generated_at
    [("name", .str "admissorium/v0.2.0/report-only"),
      ("conclusion", .str (if required then "neutral" else "success")),
      ("title", .str (if required then "Quarantine required" else "Report-only admissible")),
      ("summary", .str summary)]

def issuePacket (rt : Runtime) (generated_at c : Value) : Except JsError Value := do
  let id ← templated rt c "candidate_id"
  let body := "\n".intercalate ["candidate_id=" ++ id, "risk=" ++ (← templated rt c "risk"),
    "route=" ++ (← templated rt c "quarantine_route"),
    "quarantine_hash=" ++ (← templated rt c "quarantine_hash"),
    "No issue was created. This is a signed simulation packet."]
  noWriterEnvelope rt "SIMULATED_PRIVATE_QUARANTINE_REVIEW_TICKET" c generated_at
    [("title", .str ("[ADMISSORIUM quarantine] " ++ id)),
      ("labels", texts ["admissorium", "private-review", "dry-run"]), ("body", .str body)]

def pullRequestPacket (rt : Runtime) (generated_at c : Value) : Except JsError Value := do
  let id ← templated rt c "candidate_id"
  let body := "\n".intercalate ["candidate_id=" ++ id,
    "repair_mode=" ++ (← templated rt c "repair_mode"),
    "repair_packet_hash=" ++ (← templated rt c "repair_packet_hash"),
    "No branch was pushed. No pull request was created. This is a signed simulation packet."]
  noWriterEnvelope rt "SIMULATED_DRY_RUN_REPAIR_PULL_REQUEST" c generated_at
    [("title", .str ("[ADMISSORIUM dry-run repair] " ++ id)),
      ("branch", .str ("admissorium/dry-run/" ++ id)), ("body", .str body)]

def simulationFields (bundle generated_at : Value) (total_cases : Nat)
    (check_run_packets issue_packets pull_request_packets : List Value) : Fields :=
  [("simulation_type", .str "ADMISSORIUM_V020_TEST_MODE_WRITER_SIMULATION"),
    ("schema_version", .str "1.0.0"), ("generated_at", generated_at),
    ("state", .str "ADMISSORIUM_V020_TEST_MODE_WRITER_SIMULATION_PASS"),
    ("mode", .str "TEST_MODE_NO_SIDE_EFFECTS"), ("truth_warning", .str "NOT_TRUTH_SOURCE"),
    ("completion_warning", .str "This simulation does not make VERIFRAX_SYSTEM_COMPLETE true."),
    ("source_bundle_type", bundle.get "bundle_type"), ("total_cases", .num total_cases),
    ("check_run_packet_count", .num check_run_packets.length),
    ("issue_packet_count", .num issue_packets.length),
    ("pull_request_packet_count", .num pull_request_packets.length),
    ("total_packets", .num
      (check_run_packets.length + issue_packets.length + pull_request_packets.length : Nat))] ++
  offlineWriters ++
  [("packets", .obj [("check_run_packets", .arr check_run_packets),
    ("issue_packets", .arr issue_packets), ("pull_request_packets", .arr pull_request_packets)])]

def compileTestModeWriterSimulation (rt : Runtime) (operatorBundleReport : Value)
    (options : CompileOptions) : Except JsError Value := do
  let bundle := (← operatorBundleReport.prop "bundle").or operatorBundleReport
  let generated_at := generatedAt options operatorBundleReport
  let cases ← ((bundle.get "cases").or (.arr [])).asArray
  let check_run_packets ← cases.mapM (checkRunPacket rt generated_at)
  let issue_packets ← (cases.filter quarantineRequired).mapM (issuePacket rt generated_at)
  let pull_request_packets ← cases.mapM (pullRequestPacket rt generated_at)
  signObject rt (simulationFields bundle generated_at cases.length check_run_packets issue_packets
    pull_request_packets) options.signing_seed

/-! ## What a candidate becomes -/

/-- The verdict compiled for the candidate blocks it. -/
def blocks (rt : Runtime) (candidate : Value) : Bool :=
  match compileStages rt candidate with
  | .ok stages => isBlocked stages.verdict
  | .error _ => false

/-- The case of a file: its id, its bit, and texts under the other keys. -/
structure CaseOf (rt : Runtime) (file : String × Value) (c : Value) : Prop where
  name : c.get "file" = .str file.1
  id : c.get "candidate_id" = candidateId file.2
  required : c.get "quarantine_required" = .bool (blocks rt file.2)
  action : c.get "operator_action" = .str (if blocks rt file.2 then "REVIEW_PRIVATE_QUARANTINE"
    else "ACK_REPORT_ONLY_PASS")
  risk : ∃ text, c.get "risk" = .str text
  state : ∃ text, c.get "verdict_state" = .str text
  route : ∃ text, c.get "quarantine_route" = .str text
  mode : ∃ text, c.get "repair_mode" = .str text
  quarantine_hash : ∃ text, c.get "quarantine_hash" = .str text
  repair_packet_hash : ∃ text, c.get "repair_packet_hash" = .str text

/-- The result of a file, out of its four stages. -/
structure ResultOf (rt : Runtime) (file : String × Value) (result : Value) : Prop where
  stages : ∃ surface mutation risk stages, Classified rt file.2 surface mutation risk ∧
    compileStages rt file.2 = .ok stages ∧ result = .obj (resultFields file.1 stages true true)

section Becomes
variable {rt : Runtime} {file : String × Value} {c generated_at : Value} {surface : Surface}
  {mutation : Mutation} {risk : TruthRisk} {stages : Stages}

theorem blocks_eq (h : compileStages rt file.2 = .ok stages)
    (hclass : Classified rt file.2 surface mutation risk) : blocks rt file.2 = blocked risk := by
  rw [blocks, h]
  exact isBlocked_eq (says_of_stages h hclass).state

theorem resultOf_suiteResult {result : Value} (hclass : Classified rt file.2 surface mutation risk)
    (h : suiteResult rt file.1 file.2 = .ok result) : ResultOf rt file result := by
  obtain ⟨stages, hstages, hresult⟩ := (suiteResult_eq_ok_iff file.1 result).mp h
  exact ⟨surface, mutation, risk, stages, hclass, hstages, hresult⟩

theorem ResultOf.required {result : Value} (h : ResultOf rt file result) :
    result.get "quarantine_required" = .bool (blocks rt file.2) := by
  obtain ⟨_, _, _, stages, hclass, hstages, rfl⟩ := h.stages
  rw [blocks_eq hstages hclass]
  exact (says_of_stages hstages hclass).required

theorem ResultOf.quarantineRequired_eq {result : Value} (h : ResultOf rt file result) :
    quarantineRequired result = blocks rt file.2 := by
  rw [quarantineRequired, h.required]
  rfl

theorem caseOf_compileCase {result : Value} (h : ResultOf rt file result)
    (hcase : compileCase result = .ok c) : CaseOf rt file c := by
  obtain ⟨_, _, hcase⟩ := bind_eq_ok.mp hcase
  cases hcase
  have hrequired := h.quarantineRequired_eq
  have hbit := h.required
  obtain ⟨_, _, _, stages, hclass, hstages, rfl⟩ := h.stages
  have hsays := says_of_stages hstages hclass
  exact {
    name := rfl
    id := hsays.id
    required := hbit
    action := congrArg (fun b : Bool => Value.str (if b then "REVIEW_PRIVATE_QUARANTINE"
      else "ACK_REPORT_ONLY_PASS")) hrequired
    risk := ⟨_, hsays.risk⟩
    state := ⟨_, hsays.state⟩
    route := ⟨_, hsays.route⟩
    mode := ⟨_, hsays.mode⟩
    quarantine_hash := hsays.quarantine_hash
    repair_packet_hash := hsays.repair_hash }

theorem exists_compileCase {result : Value} (h : ResultOf rt file result) :
    ∃ c, compileCase result = .ok c := by
  obtain ⟨_, _, _, stages, _, _, rfl⟩ := h.stages
  exact ⟨_, rfl⟩

theorem CaseOf.quarantineRequired_eq (h : CaseOf rt file c) :
    quarantineRequired c = blocks rt file.2 := by
  rw [quarantineRequired, h.required]
  rfl

theorem templated_str {key text : String} (h : c.get key = .str text) :
    templated rt c key = .ok text := by
  rw [templated, h]
  rfl

theorem CaseOf.exists_envelope (h : CaseOf rt file c) (kind : String) (payload : Fields) :
    ∃ packet, noWriterEnvelope rt kind c generated_at payload = .ok packet := by
  obtain ⟨_, hfile⟩ : ∃ v, c.prop "file" = .ok v := by
    cases c with
    | undefined => cases h.name
    | null => cases h.name
    | _ => exact ⟨_, rfl⟩
  obtain ⟨packet, hp, _⟩ := exists_signObject rt (envelopeFields kind c generated_at payload)
    seedText_undefined
  exact exists_bind_ok (Value.prop_eq_get hfile "candidate_id") ⟨_, hp⟩

/-! ## The three packets of a case -/

/-- Only the candidate's id can be without a text. -/
theorem exists_checkRunPacket (h : CaseOf rt file c) {id : String}
    (hid : (candidateId file.2).toText rt = .ok id) :
    ∃ packet, checkRunPacket rt generated_at c = .ok packet := by
  obtain ⟨_, hrisk⟩ := h.risk
  obtain ⟨_, hstate⟩ := h.state
  rw [← h.id] at hid
  exact exists_bind_ok hid (exists_bind_ok (templated_str hrisk)
    (exists_bind_ok (templated_str hstate) (h.exists_envelope _ _)))

theorem exists_issuePacket (h : CaseOf rt file c) {id : String}
    (hid : (candidateId file.2).toText rt = .ok id) :
    ∃ packet, issuePacket rt generated_at c = .ok packet := by
  obtain ⟨_, hrisk⟩ := h.risk
  obtain ⟨_, hroute⟩ := h.route
  obtain ⟨_, hhash⟩ := h.quarantine_hash
  rw [← h.id] at hid
  exact exists_bind_ok hid (exists_bind_ok (templated_str hrisk)
    (exists_bind_ok (templated_str hroute) (exists_bind_ok (templated_str hhash)
      (h.exists_envelope _ _))))

theorem exists_pullRequestPacket (h : CaseOf rt file c) {id : String}
    (hid : (candidateId file.2).toText rt = .ok id) :
    ∃ packet, pullRequestPacket rt generated_at c = .ok packet := by
  obtain ⟨_, hmode⟩ := h.mode
  obtain ⟨_, hhash⟩ := h.repair_packet_hash
  rw [← h.id] at hid
  exact exists_bind_ok hid (exists_bind_ok (templated_str hmode)
    (exists_bind_ok (templated_str hhash) (h.exists_envelope _ _)))

/-- The file and the id a packet is for. -/
def subject (packet : Value) : Value × Value := (packet.get "file", packet.get "candidate_id")

def subjectOf (file : String × Value) : Value × Value := (.str file.1, candidateId file.2)

theorem subject_envelope (h : CaseOf rt file c) {kind : String} {payload : Fields} {packet : Value}
    (hp : noWriterEnvelope rt kind c generated_at payload = .ok packet) :
    subject packet = subjectOf file ∧ packet.get "payload" = .obj payload := by
  obtain ⟨_, _, hp⟩ := bind_eq_ok.mp hp
  have hfile : packet.get "file" = c.get "file" := get_of_signObject hp (by decide)
  have hid : packet.get "candidate_id" = c.get "candidate_id" := get_of_signObject hp (by decide)
  rw [subject, subjectOf, hfile, hid, h.name, h.id]
  exact ⟨rfl, get_of_signObject hp (by decide)⟩

theorem checkRunPacket_says (h : CaseOf rt file c) {packet : Value}
    (hp : checkRunPacket rt generated_at c = .ok packet) : subject packet = subjectOf file ∧
      (packet.get "payload").get "conclusion" =
        .str (if blocks rt file.2 then "neutral" else "success") := by
  obtain ⟨_, _, hp⟩ := bind_eq_ok.mp hp
  obtain ⟨_, _, hp⟩ := bind_eq_ok.mp hp
  obtain ⟨_, _, hp⟩ := bind_eq_ok.mp hp
  obtain ⟨hsubject, hpayload⟩ := subject_envelope h hp
  refine ⟨hsubject, ?_⟩
  rw [hpayload, ← h.quarantineRequired_eq]
  rfl

theorem issuePacket_says (h : CaseOf rt file c) {packet : Value}
    (hp : issuePacket rt generated_at c = .ok packet) : subject packet = subjectOf file := by
  obtain ⟨_, _, hp⟩ := bind_eq_ok.mp hp
  obtain ⟨_, _, hp⟩ := bind_eq_ok.mp hp
  obtain ⟨_, _, hp⟩ := bind_eq_ok.mp hp
  obtain ⟨_, _, hp⟩ := bind_eq_ok.mp hp
  exact (subject_envelope h hp).1

theorem pullRequestPacket_says (h : CaseOf rt file c) {packet : Value}
    (hp : pullRequestPacket rt generated_at c = .ok packet) : subject packet = subjectOf file := by
  obtain ⟨_, _, hp⟩ := bind_eq_ok.mp hp
  obtain ⟨_, _, hp⟩ := bind_eq_ok.mp hp
  obtain ⟨_, _, hp⟩ := bind_eq_ok.mp hp
  exact (subject_envelope h hp).1

end Becomes

/-! ## The whole pipeline -/

def itemsOf (v : Value) (key : String) : List Value :=
  match v.get key with
  | .arr items => items
  | _ => []

/-- Every stage has the same bit for the candidate at a position, and no packet is lost. -/
structure SameBits (files : List (String × Value)) (stages : List Stages)
    (suite bundle simulation : Value) (bit : Value → Bool) : Prop where
  risk : stages.map (fun s => (s.verdict.get "risk").strictEquals (.str "RED")) =
    files.map (fun file => bit file.2)
  admission : stages.map (fun s => (s.receipt.get "admission").strictEquals (.str "NOT_ADMITTED")) =
    files.map (fun file => bit file.2)
  required : stages.map (fun s => s.quarantine.get "quarantine_required") =
    files.map (fun file => .bool (bit file.2))
  results : (itemsOf suite "results").map (fun r => r.get "quarantine_required") =
    files.map (fun file => .bool (bit file.2))
  action : (itemsOf bundle "cases").map (fun c => c.get "operator_action") =
    files.map (fun file => .str (if bit file.2 then "REVIEW_PRIVATE_QUARANTINE"
      else "ACK_REPORT_ONLY_PASS"))
  conclusion : (itemsOf (simulation.get "packets") "check_run_packets").map
      (fun packet => (packet.get "payload").get "conclusion") =
    files.map (fun file => .str (if bit file.2 then "neutral" else "success"))
  check_runs : (itemsOf (simulation.get "packets") "check_run_packets").map subject =
    files.map subjectOf
  pull_requests : (itemsOf (simulation.get "packets") "pull_request_packets").map subject =
    files.map subjectOf
  issues : (itemsOf (simulation.get "packets") "issue_packets").map subject =
    (files.filter (fun file => bit file.2)).map subjectOf
  totals : ∃ total quarantined passed : Nat, suite.get "total" = .num total ∧
    suite.get "quarantined" = .num quarantined ∧
    suite.get "passed_without_quarantine" = .num passed ∧ quarantined + passed = total ∧
    simulation.get "total_packets" = .num (2 * total + quarantined : Nat)

/-- The pipeline runs to its end and keeps every bit, every candidate and every count. -/
def KeepsEveryCandidate (rt : Runtime) (files : List (String × Value)) : Prop :=
  ∃ stages suite bundle simulation bit, files.mapM (fun file => compileStages rt file.2) = .ok stages ∧
    quarantineSuite rt files = .ok suite ∧
    compileOperatorReviewBundle rt suite suiteOptions = .ok bundle ∧
    compileTestModeWriterSimulation rt bundle suiteOptions = .ok simulation ∧
    SameBits files stages suite bundle simulation bit

section Whole
variable {rt : Runtime} {files : List (String × Value)}

/-- The first classifier accepts every candidate. -/
def Accepted (rt : Runtime) (files : List (String × Value)) : Prop :=
  ∀ file ∈ files, ∃ surface, classifySurface rt file.2 = .ok surface

theorem forall₂_files : List.Forall₂ (fun a b => a = b ∧ b ∈ files) files files :=
  List.forall₂_same.mpr (fun _ h => ⟨rfl, h⟩)

theorem exists_stages_of_accepted (h : Accepted rt files) {file : String × Value} (hf : file ∈ files) :
    ∃ surface mutation risk stages, Classified rt file.2 surface mutation risk ∧
      compileStages rt file.2 = .ok stages := by
  obtain ⟨surface, hs⟩ := h file hf
  obtain ⟨mutation, risk, hclass⟩ := exists_classified hs
  obtain ⟨stages, hstages⟩ := exists_stages hclass
  exact ⟨surface, mutation, risk, stages, hclass, hstages⟩

/-- The results of the suite, in the order of the files. -/
theorem exists_results (h : Accepted rt files) :
    ∃ results, quarantineSuite rt files = .ok (.obj (suiteFields results)) ∧
      List.Forall₂ (ResultOf rt) files results := by
  have hresults : ∃ results, files.mapM (fun file => suiteResult rt file.1 file.2) = .ok results := by
    refine exists_mapM_eq_ok (fun file hfile => ?_)
    obtain ⟨_, _, _, stages, _, hstages⟩ := exists_stages_of_accepted h hfile
    exact ⟨_, (suiteResult_eq_ok_iff file.1 _).mpr ⟨stages, hstages, rfl⟩⟩
  obtain ⟨results, hresults⟩ := hresults
  refine ⟨results, by rw [quarantineSuite, hresults]; rfl, ?_⟩
  apply forall₂_of_mapM hresults forall₂_files
  rintro file _ result ⟨rfl, hfile⟩ hresult
  obtain ⟨_, _, _, _, hclass, _⟩ := exists_stages_of_accepted h hfile
  exact resultOf_suiteResult hclass hresult

/-- The operator's cases, in the order of the files. -/
theorem exists_cases {results : List Value} (h : List.Forall₂ (ResultOf rt) files results) :
    ∃ cases bundle, compileOperatorReviewBundle rt (.obj (suiteFields results)) suiteOptions =
        .ok bundle ∧ bundle.get "bundle" = .undefined ∧ bundle.get "cases" = .arr cases ∧
      (∃ own, bundle = .obj own) ∧ List.Forall₂ (CaseOf rt) files cases := by
  have hcases : ∃ cases, results.mapM compileCase = .ok cases := by
    refine exists_mapM_eq_ok (fun result hresult => ?_)
    obtain ⟨file, _, hfile⟩ := exists_of_forall₂_right h hresult
    exact exists_compileCase hfile
  obtain ⟨cases, hcases⟩ := hcases
  obtain ⟨bundle, hbundle, hget⟩ := exists_signObject rt
    (bundleFields (.obj (suiteFields results))
      (generatedAt suiteOptions (.obj (suiteFields results))) cases)
    seedText_undefined
  refine ⟨cases, .obj bundle, ?_, hget "bundle" (by decide), hget "cases" (by decide), ⟨_, rfl⟩, ?_⟩
  · have hresults : Value.prop (.obj (suiteFields results)) "results" = .ok (.arr results) := rfl
    have harray : Value.asArray (.arr results) = .ok results := rfl
    rw [compileOperatorReviewBundle, hresults, ok_bind, harray, ok_bind, hcases, ok_bind]
    exact hbundle
  · exact forall₂_of_mapM hcases h (fun _ _ _ hr hc => caseOf_compileCase hr hc)

/-- The suite's counts add up. -/
theorem counts_suite {results : List Value} (h : List.Forall₂ (ResultOf rt) files results) :
    (results.filter quarantineRequired).length =
        (files.filter (fun file => blocks rt file.2)).length ∧
      (results.filter quarantineRequired).length +
        (results.filter (fun r => !quarantineRequired r)).length = files.length := by
  have hbits : results.map quarantineRequired = files.map (fun file => blocks rt file.2) :=
    map_eq_of_forall₂ h (fun _ _ hr => hr.quarantineRequired_eq)
  constructor
  · rw [← List.countP_eq_length_filter, ← List.countP_eq_length_filter]
    have hcount := congrArg (List.countP id) hbits
    rw [List.countP_map, List.countP_map] at hcount
    exact hcount
  · rw [h.length_eq, ← List.countP_eq_length_filter, ← List.countP_eq_length_filter,
      List.length_eq_countP_add_countP quarantineRequired]
    simp

/-- The simulation of a bundle is the three lists of packets for its cases. -/
theorem simulation_eq_ok_iff {own : Fields} {cases : List Value} {simulation : Value}
    (hbundle : (Value.obj own).get "bundle" = .undefined)
    (hcases : (Value.obj own).get "cases" = .arr cases) :
    compileTestModeWriterSimulation rt (.obj own) suiteOptions = .ok simulation ↔
      ∃ checkRuns, cases.mapM (checkRunPacket rt (generatedAt suiteOptions (.obj own))) =
          .ok checkRuns ∧
        ∃ issues, (cases.filter quarantineRequired).mapM
            (issuePacket rt (generatedAt suiteOptions (.obj own))) = .ok issues ∧
          ∃ pulls, cases.mapM (pullRequestPacket rt (generatedAt suiteOptions (.obj own))) =
              .ok pulls ∧
            signObject rt (simulationFields (.obj own) (generatedAt suiteOptions (.obj own))
              cases.length checkRuns issues pulls) .undefined = .ok simulation := by
  have hprop : Value.prop (.obj own) "bundle" = .ok .undefined := by rw [← hbundle]; rfl
  have hor : (Value.undefined).or (.obj own) = .obj own := rfl
  have harray : ((Value.arr cases).or (.arr [])).asArray = .ok cases := rfl
  simp only [compileTestModeWriterSimulation, hprop, ok_bind, hor, hcases, harray, bind_eq_ok]
  rfl

theorem packets_simulation {own : Fields} {generated_at simulation : Value} {total : Nat}
    {checkRuns issues pulls : List Value}
    (h : signObject rt (simulationFields (.obj own) generated_at total checkRuns issues pulls)
      .undefined = .ok simulation) :
    itemsOf (simulation.get "packets") "check_run_packets" = checkRuns ∧
      itemsOf (simulation.get "packets") "issue_packets" = issues ∧
      itemsOf (simulation.get "packets") "pull_request_packets" = pulls ∧
      simulation.get "total_packets" =
        .num (checkRuns.length + issues.length + pulls.length : Nat) := by
  have hpackets : simulation.get "packets" = .obj [("check_run_packets", .arr checkRuns),
      ("issue_packets", .arr issues), ("pull_request_packets", .arr pulls)] :=
    get_of_signObject h (by decide)
  rw [hpackets]
  exact ⟨rfl, rfl, rfl, get_of_signObject h (by decide)⟩

/-- The stages agree with the bits of the files. -/
theorem stages_bits (h : Accepted rt files) : ∃ stages,
    files.mapM (fun file => compileStages rt file.2) = .ok stages ∧
    stages.map (fun s => (s.verdict.get "risk").strictEquals (.str "RED")) =
      files.map (fun file => blocks rt file.2) ∧
    stages.map (fun s => (s.receipt.get "admission").strictEquals (.str "NOT_ADMITTED")) =
      files.map (fun file => blocks rt file.2) ∧
    stages.map (fun s => s.quarantine.get "quarantine_required") =
      files.map (fun file => .bool (blocks rt file.2)) := by
  have hstages : ∃ stages, files.mapM (fun file => compileStages rt file.2) = .ok stages := by
    refine exists_mapM_eq_ok (fun file hfile => ?_)
    obtain ⟨_, _, _, stages, _, hstages⟩ := exists_stages_of_accepted h hfile
    exact ⟨stages, hstages⟩
  obtain ⟨stages, hstages⟩ := hstages
  have hsays : List.Forall₂ (fun file s => ∃ risk, s.Says file.2 risk ∧
      blocks rt file.2 = blocked risk) files stages := by
    apply forall₂_of_mapM hstages forall₂_files
    rintro file _ s ⟨rfl, hfile⟩ hs
    obtain ⟨_, _, risk, _, hclass, _⟩ := exists_stages_of_accepted h hfile
    exact ⟨risk, says_of_stages hs hclass, blocks_eq hs hclass⟩
  refine ⟨stages, hstages, map_eq_of_forall₂ hsays ?_, map_eq_of_forall₂ hsays ?_,
    map_eq_of_forall₂ hsays ?_⟩
  · rintro file s ⟨risk, hsays, hbit⟩
    rw [hbit, hsays.risk, blocked]
    cases risk.risk <;> decide
  · rintro file s ⟨risk, hsays, hbit⟩
    rw [hbit, hsays.admission, blocked]
    cases risk.risk <;> decide
  · rintro file s ⟨risk, hsays, hbit⟩
    rw [hbit, hsays.required]

/-- What the simulation holds for the files: a check run, a pull request, and an issue for
each one that is blocked. -/
structure PacketsFor (rt : Runtime) (files : List (String × Value)) (simulation : Value)
    (checkRuns issues pulls : List Value) : Prop where
  check_runs_eq : itemsOf (simulation.get "packets") "check_run_packets" = checkRuns
  issues_eq : itemsOf (simulation.get "packets") "issue_packets" = issues
  pulls_eq : itemsOf (simulation.get "packets") "pull_request_packets" = pulls
  total : simulation.get "total_packets" =
    .num (checkRuns.length + issues.length + pulls.length : Nat)
  check_runs : List.Forall₂ (fun file packet => subject packet = subjectOf file ∧
    (packet.get "payload").get "conclusion" =
      .str (if blocks rt file.2 then "neutral" else "success")) files checkRuns
  issues : List.Forall₂ (fun file packet => subject packet = subjectOf file)
    (files.filter (fun file => blocks rt file.2)) issues
  pulls : List.Forall₂ (fun file packet => subject packet = subjectOf file) files pulls

/-- With a text for every id, every case has its packets. -/
theorem exists_simulation {own : Fields} {cases : List Value}
    (hbundle : (Value.obj own).get "bundle" = .undefined)
    (hcases : (Value.obj own).get "cases" = .arr cases) (hof : List.Forall₂ (CaseOf rt) files cases)
    (hids : ∀ file ∈ files, ∃ id, (candidateId file.2).toText rt = .ok id) :
    ∃ simulation checkRuns issues pulls,
      compileTestModeWriterSimulation rt (.obj own) suiteOptions = .ok simulation ∧
        PacketsFor rt files simulation checkRuns issues pulls := by
  have hid : ∀ c ∈ cases, ∃ file, CaseOf rt file c ∧
      ∃ id, (candidateId file.2).toText rt = .ok id := by
    intro c hc
    obtain ⟨file, hfile, hcase⟩ := exists_of_forall₂_right hof hc
    exact ⟨file, hcase, hids file hfile⟩
  obtain ⟨checkRuns, hchecks⟩ := exists_mapM_eq_ok
    (f := checkRunPacket rt (generatedAt suiteOptions (.obj own))) (fun c hc => by
      obtain ⟨file, hcase, id, htext⟩ := hid c hc
      exact exists_checkRunPacket hcase htext)
  obtain ⟨issues, hissues⟩ := exists_mapM_eq_ok (l := cases.filter quarantineRequired)
    (f := issuePacket rt (generatedAt suiteOptions (.obj own))) (fun c hc => by
      obtain ⟨file, hcase, id, htext⟩ := hid c (List.mem_filter.mp hc).1
      exact exists_issuePacket hcase htext)
  obtain ⟨pulls, hpulls⟩ := exists_mapM_eq_ok
    (f := pullRequestPacket rt (generatedAt suiteOptions (.obj own))) (fun c hc => by
      obtain ⟨file, hcase, id, htext⟩ := hid c hc
      exact exists_pullRequestPacket hcase htext)
  obtain ⟨simulation, hsigned, _⟩ := exists_signObject rt
    (simulationFields (.obj own) (generatedAt suiteOptions (.obj own)) cases.length checkRuns
      issues pulls) seedText_undefined
  obtain ⟨hlistChecks, hlistIssues, hlistPulls, htotal⟩ := packets_simulation hsigned
  have hbit : ∀ file c, CaseOf rt file c →
      (blocks rt file.2 = true ↔ quarantineRequired c = true) := by
    intro file c hcase
    rw [hcase.quarantineRequired_eq]
  refine ⟨.obj simulation, checkRuns, issues, pulls, (simulation_eq_ok_iff hbundle hcases).mpr
    ⟨checkRuns, hchecks, issues, hissues, pulls, hpulls, hsigned⟩, ?_⟩
  exact {
    check_runs_eq := hlistChecks
    issues_eq := hlistIssues
    pulls_eq := hlistPulls
    total := htotal
    check_runs := forall₂_of_mapM hchecks hof (fun _ _ _ hc hp => checkRunPacket_says hc hp)
    issues := forall₂_of_mapM hissues (List.rel_filter (fun _ _ hc => hbit _ _ hc) hof)
      (fun _ _ _ hc hp => issuePacket_says hc hp)
    pulls := forall₂_of_mapM hpulls hof (fun _ _ _ hc hp => pullRequestPacket_says hc hp) }

/-- The first packet of a candidate already writes its id into a text. -/
theorem id_text_of_keeps (h : Accepted rt files) (hkeeps : KeepsEveryCandidate rt files) :
    ∀ file ∈ files, ∃ id, (candidateId file.2).toText rt = .ok id := by
  obtain ⟨results, hsuite, hresults⟩ := exists_results h
  obtain ⟨cases, _, hbundle, hnone, hcases, ⟨own, rfl⟩, hof⟩ := exists_cases hresults
  obtain ⟨stages, suite, bundle, simulation, bit, _, hs, hb, hsimulation, _⟩ := hkeeps
  obtain rfl := Except.ok.inj (hsuite.symm.trans hs)
  obtain rfl := Except.ok.inj (hbundle.symm.trans hb)
  obtain ⟨checkRuns, hchecks, _⟩ := (simulation_eq_ok_iff hnone hcases).mp hsimulation
  intro file hfile
  obtain ⟨c, hc, hcase⟩ := exists_of_forall₂_left hof hfile
  obtain ⟨packet, _, hpacket⟩ := exists_of_mem_of_mapM hchecks hc
  obtain ⟨id, hid, _⟩ := bind_eq_ok.mp hpacket
  rw [templated, hcase.id] at hid
  exact ⟨id, hid⟩

/-- A candidate whose id has no text stops the simulation, and nothing else does. -/
theorem keepsEveryCandidate_iff (h : Accepted rt files) :
    KeepsEveryCandidate rt files ↔
      ∀ file ∈ files, ∃ id, (candidateId file.2).toText rt = .ok id := by
  constructor
  · exact id_text_of_keeps h
  · intro hids
    obtain ⟨results, hsuite, hresults⟩ := exists_results h
    obtain ⟨cases, _, hbundle, hnone, hcases, ⟨own, rfl⟩, hof⟩ := exists_cases hresults
    obtain ⟨simulation, checkRuns, issues, pulls, hsimulation, hpackets⟩ :=
      exists_simulation hnone hcases hof hids
    obtain ⟨stages, hstages, hrisk, hadmission, hrequired⟩ := stages_bits h
    obtain ⟨hquarantined, hsum⟩ := counts_suite hresults
    refine ⟨stages, _, _, simulation, blocks rt, hstages, hsuite, hbundle, hsimulation, ?_⟩
    exact {
      risk := hrisk
      admission := hadmission
      required := hrequired
      results := map_eq_of_forall₂ hresults (fun _ _ hr => hr.required)
      action := by
        rw [itemsOf, hcases]
        exact map_eq_of_forall₂ hof (fun _ _ hc => hc.action)
      conclusion := by
        rw [hpackets.check_runs_eq]
        exact map_eq_of_forall₂ hpackets.check_runs (fun _ _ hp => hp.2)
      check_runs := by
        rw [hpackets.check_runs_eq]
        exact map_eq_of_forall₂ hpackets.check_runs (fun _ _ hp => hp.1)
      pull_requests := by
        rw [hpackets.pulls_eq]
        exact map_eq_of_forall₂ hpackets.pulls (fun _ _ hp => hp)
      issues := by
        rw [hpackets.issues_eq]
        exact map_eq_of_forall₂ hpackets.issues (fun _ _ hp => hp)
      totals := by
        refine ⟨results.length, _, _, rfl, rfl, rfl, ?_, ?_⟩
        · rw [hsum, hresults.length_eq]
        · rw [hpackets.total, ← hpackets.check_runs.length_eq, ← hpackets.issues.length_eq,
            ← hpackets.pulls.length_eq, hquarantined, hresults.length_eq]
          congr 2
          omega }

theorem accepted_of_no_files (rt : Runtime) {fields : Fields} (name : String)
    (h : (Value.obj fields).get "files" = .undefined) : Accepted rt [(name, .obj fields)] := by
  intro file hfile
  obtain rfl := List.mem_singleton.mp hfile
  obtain ⟨text, hread⟩ := reads_of_no_files rt h
  exact exists_classifySurface hread.paths_eq hread.text_eq hread.readable

end Whole

theorem namedCandidate_keeps :
    KeepsEveryCandidate .ascii [("a.json", .obj [("id", .str "projection-clean")])] := by
  rw [keepsEveryCandidate_iff (accepted_of_no_files .ascii "a.json" rfl)]
  intro file hfile
  obtain rfl := List.mem_singleton.mp hfile
  exact ⟨"projection-clean", rfl⟩

/-- An id that is an object with a member `toString` of its own. -/
theorem objectId_not_keeps :
    ¬ KeepsEveryCandidate .ascii [("a.json", .obj [("id", .obj [("toString", .num 1)])])] := by
  intro hkeeps
  obtain ⟨id, hid⟩ := id_text_of_keeps (accepted_of_no_files .ascii "a.json" rfl) hkeeps _
    List.mem_cons_self
  cases hid

end Admissorium.Pipeline.WriterSimulation
