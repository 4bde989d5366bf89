import Admissorium.Signing.Replay
import Admissorium.Verdict.Admission

/-!
# The quarantine suite

`src/v020/route-quarantine-repair` compiles a verdict and a receipt for every candidate file,
routes each to quarantine or past it, and drafts a repair that is never run.
-/
namespace Admissorium.Pipeline.QuarantineSuite
set_option autoImplicit false

open JavaScript Classify Signing Verdict Verdict.Admission

/-- The writers no record of the suite enables. -/
def idleWriters : Fields :=
  ["writer_enabled", "webhook_enabled", "check_run_writer_enabled", "pr_writer_enabled",
    "issue_writer_enabled", "package_publish_enabled", "contents_write_enabled",
    "main_write_enabled", "allowed_to_mutate_truth"].map (fun key => (key, .bool false))

/-- `verdict.state !== "ADMISSIBLE_REPORT_ONLY"`. -/
def isBlocked (verdict : Value) : Bool :=
  !(verdict.get "state").strictEquals (.str "ADMISSIBLE_REPORT_ONLY")

/-- `options.generated_at || source.generated_at || "1970-01-01T00:00:00.000Z"`. -/
def generatedAt (options : CompileOptions) (source : Value) : Value :=
  (options.generated_at.or (source.get "generated_at")).or epochStart

def quarantineFields (verdict receipt : Value) (options : CompileOptions) : Fields :=
  let blocked := isBlocked verdict
  [("record_type", .str "ADMISSORIUM_QUARANTINE_RECORD"), ("schema_version", .str "1.0.0"),
    ("generated_at", generatedAt options verdict), ("candidate_id", verdict.get "candidate_id"),
    ("verdict_state", verdict.get "state"), ("receipt_admission", receipt.get "admission"),
    ("risk", verdict.get "risk"), ("quarantine_required", .bool blocked),
    ("route", .str (if blocked then "PRIVATE_REVIEW_QUARANTINE" else "NO_QUARANTINE_REPORT_ONLY")),
    ("queue", .str (if blocked then "admissorium/v020/private-review"
      else "admissorium/v020/report-only-pass"))] ++
  boundaryFields ++ idleWriters ++
  [("allowed_actions", texts (if blocked
      then ["emit_report", "emit_quarantine_record", "emit_dry_run_repair_plan"]
      else ["emit_report", "emit_no_quarantine_record"])),
    ("denied_actions", texts ["open_issue", "open_pull_request", "write_check_run", "call_webhook",
      "direct_main_write", "contents_write", "package_publish", "persist_secret", "mutate_truth",
      "decide_truth"]),
    ("reasons", ((verdict.get "truth_risk").get "reasons").or (.arr [])),
    ("red_classes", ((verdict.get "mutation").get "red_classes").or (.arr [])),
    ("verdict_hash", verdict.get "canonical_hash"), ("receipt_hash", receipt.get "canonical_hash")]

def routeQuarantine (rt : Runtime) (verdict receipt : Value) (options : CompileOptions) :
    Except JsError Value := do
  let _ ← verdict.prop "state"
  let _ ← receipt.prop "admission"
  signObject rt (quarantineFields verdict receipt options) options.signing_seed

def repairFields (verdict receipt quarantine : Value) (options : CompileOptions) : Fields :=
  let blocked := isBlocked verdict
  [("packet_type", .str "ADMISSORIUM_DRY_RUN_REPAIR_PACKET"), ("schema_version", .str "1.0.0"),
    ("generated_at", generatedAt options verdict), ("candidate_id", verdict.get "candidate_id"),
    ("verdict_state", verdict.get "state"), ("quarantine_route", quarantine.get "route"),
    ("repair_mode", .str "DRY_RUN_ONLY")] ++
  boundaryFields ++ idleWriters ++
  [("proposed_actions", texts (if blocked
      then ["produce private review report", "explain blocked classes",
        "produce human-readable remediation notes", "do not write repository state"]
      else ["preserve report-only admission", "do not create writer side effects"])),
    ("forbidden_actions", texts ["open_issue", "open_pull_request", "write_check_run",
      "call_webhook", "push_branch", "write_main", "publish_package", "persist_secret",
      "mutate_truth"]),
    ("no_truth_mutation_path_pass", verdict.get "no_truth_mutation_path_pass"),
    ("no_direct_main_write_pass", verdict.get "no_direct_main_write_pass"),
    ("no_package_publish_path_pass", verdict.get "no_package_publish_path_pass"),
    ("no_secret_persistence_pass", verdict.get "no_secret_persistence_pass"),
    ("verdict_hash", verdict.get "canonical_hash"), ("receipt_hash", receipt.get "canonical_hash"),
    ("quarantine_hash", quarantine.get "canonical_hash")]

def compileDryRunRepairPacket (rt : Runtime) (verdict receipt quarantine : Value)
    (options : CompileOptions) : Except JsError Value := do
  let _ ← verdict.prop "state"
  let _ ← quarantine.prop "route"
  let _ ← receipt.prop "canonical_hash"
  signObject rt (repairFields verdict receipt quarantine options) options.signing_seed

/-! ## The suite -/

def suiteOptions : CompileOptions := { generated_at := epochStart }

/-- What the suite compiles for one candidate. -/
structure Stages where
  verdict : Value
  receipt : Value
  quarantine : Value
  repair_packet : Value

def compileStages (rt : Runtime) (candidate : Value) : Except JsError Stages := do
  let verdict ← compileActuatorVerdict rt candidate suiteOptions
  let receipt ← compileAdmissionReceipt rt verdict suiteOptions
  let quarantine ← routeQuarantine rt verdict receipt suiteOptions
  let repair_packet ← compileDryRunRepairPacket rt verdict receipt quarantine suiteOptions
  return { verdict, receipt, quarantine, repair_packet }

/-- `verifySignedObject(signed)`; only objects are signed. -/
def signatureOk (rt : Runtime) : Value → Except JsError Bool
  | .obj fields => verifySignedObject rt fields .undefined
  | _ => .error .typeError

/-- The writers the suite copies from a repair packet and checks again. -/
def checkedWriters : List String :=
  ["writer_enabled", "webhook_enabled", "check_run_writer_enabled", "pr_writer_enabled",
    "issue_writer_enabled", "package_publish_enabled", "allowed_to_mutate_truth"]

def resultFields (file : String) (stages : Stages)
    (quarantine_signature_ok repair_packet_signature_ok : Bool) : Fields :=
  [("file", .str file), ("candidate_id", stages.verdict.get "candidate_id"),
    ("risk", stages.verdict.get "risk"), ("verdict_state", stages.verdict.get "state"),
    ("quarantine_required", stages.quarantine.get "quarantine_required"),
    ("quarantine_route", stages.quarantine.get "route"),
    ("repair_mode", stages.repair_packet.get "repair_mode"),
    ("quarantine_signature_ok", .bool quarantine_signature_ok),
    ("repair_packet_signature_ok", .bool repair_packet_signature_ok)] ++
  checkedWriters.map (fun key => (key, stages.repair_packet.get key)) ++
  [("quarantine", stages.quarantine), ("repair_packet", stages.repair_packet)]

def suiteResult (rt : Runtime) (file : String) (candidate : Value) : Except JsError Value := do
  let stages ← compileStages rt candidate
  let quarantine_signature_ok ← signatureOk rt stages.quarantine
  let repair_packet_signature_ok ← signatureOk rt stages.repair_packet
  return .obj (resultFields file stages quarantine_signature_ok repair_packet_signature_ok)

def quarantineRequired (result : Value) : Bool := (result.get "quarantine_required").truthy

/-- A signature that fails, or a writer that is not off. -/
def resultFailed (result : Value) : Bool :=
  !(result.get "quarantine_signature_ok").truthy ||
    !(result.get "repair_packet_signature_ok").truthy ||
    checkedWriters.any (fun key => !(result.get key).strictEquals (.bool false))

def count (test : Value → Bool) (results : List Value) : Value :=
  .num ((results.filter test).length : Nat)

def suiteFields (results : List Value) : Fields :=
  [("report_type", .str "ADMISSORIUM_V020_QUARANTINE_REPAIR_SUITE"), ("schema_version", .str "1.0.0"),
    ("generated_at", epochStart), ("mode", .str "REPORT_ONLY_DRY_RUN"),
    ("total", .num (results.length : Nat)), ("quarantined", count quarantineRequired results),
    ("passed_without_quarantine", count (fun r => !quarantineRequired r) results),
    ("signed_quarantine_records", count (fun r => (r.get "quarantine_signature_ok").truthy) results),
    ("signed_repair_packets", count (fun r => (r.get "repair_packet_signature_ok").truthy) results),
    ("failed", count resultFailed results), ("results", .arr results)]

/-- The summary over the candidate files, each with its parsed content. -/
def quarantineSuite (rt : Runtime) (files : List (String × Value)) : Except JsError Value := do
  let results ← files.mapM (fun file => suiteResult rt file.1 file.2)
  return .obj (suiteFields results)

/-! ## What each stage says -/

/-- The stages of a candidate, read off its risk. -/
structure Stages.Says (stages : Stages) (candidate : Value) (found : TruthRisk) : Prop where
  id : stages.verdict.get "candidate_id" = candidateId candidate
  state : stages.verdict.get "state" = .str (verdictState found)
  risk : stages.verdict.get "risk" = .str found.risk.text
  admission : stages.receipt.get "admission" =
    .str (if found.risk = .green then "REPORT_ONLY_ADMISSION" else "NOT_ADMITTED")
  required : stages.quarantine.get "quarantine_required" = .bool (blocked found)
  route : stages.quarantine.get "route" =
    .str (if blocked found then "PRIVATE_REVIEW_QUARANTINE" else "NO_QUARANTINE_REPORT_ONLY")
  mode : stages.repair_packet.get "repair_mode" = .str "DRY_RUN_ONLY"
  quarantine_hash : ∃ hash, stages.quarantine.get "canonical_hash" = .str hash
  repair_hash : ∃ hash, stages.repair_packet.get "canonical_hash" = .str hash

section Stages
variable {rt : Runtime} {candidate : Value} {surface : Surface} {mutation : Mutation}
  {risk : TruthRisk} {stages : Stages}

theorem isBlocked_eq {verdict : Value} (h : verdict.get "state" = .str (verdictState risk)) :
    isBlocked verdict = blocked risk := by
  rw [isBlocked, h, verdictState_eq, blocked]
  cases risk.risk <;> decide

theorem says_of_stages (h : compileStages rt candidate = .ok stages)
    (hclass : Classified rt candidate surface mutation risk) : stages.Says candidate risk := by
  obtain ⟨verdict, hv, h⟩ := bind_eq_ok.mp h
  obtain ⟨receipt, hr, h⟩ := bind_eq_ok.mp h
  obtain ⟨quarantine, hq, h⟩ := bind_eq_ok.mp h
  obtain ⟨repair, hp, h⟩ := bind_eq_ok.mp h
  cases h
  obtain ⟨_, _, _, hclass', hverdict⟩ := get_of_verdict hv
  obtain ⟨rfl, rfl, rfl⟩ := hclass.unique hclass'
  obtain ⟨_, _, hq⟩ := bind_eq_ok.mp hq
  obtain ⟨_, _, hq⟩ := bind_eq_ok.mp hq
  obtain ⟨_, _, hp⟩ := bind_eq_ok.mp hp
  obtain ⟨_, _, hp⟩ := bind_eq_ok.mp hp
  obtain ⟨_, _, hp⟩ := bind_eq_ok.mp hp
  have hstate : verdict.get "state" = .str (verdictState risk) := hverdict "state" (by decide)
  have hrequired : quarantine.get "quarantine_required" = .bool (isBlocked verdict) :=
    get_of_signObject hq (by decide)
  have hroute : quarantine.get "route" = .str (if isBlocked verdict then "PRIVATE_REVIEW_QUARANTINE"
      else "NO_QUARANTINE_REPORT_ONLY") := get_of_signObject hq (by decide)
  rw [isBlocked_eq hstate] at hrequired hroute
  exact {
    id := hverdict "candidate_id" (by decide)
    state := hstate
    risk := hverdict "risk" (by decide)
    admission := admission_of_verdict hv hr hclass
    required := hrequired
    route := hroute
    mode := get_of_signObject hp (by decide)
    quarantine_hash := canonical_hash_of_signObject hq
    repair_hash := canonical_hash_of_signObject hp }

/-- Every classified candidate passes all four stages. -/
theorem exists_stages (hclass : Classified rt candidate surface mutation risk) :
    ∃ stages, compileStages rt candidate = .ok stages := by
  have hseed : seedText suiteOptions.signing_seed = .ok defaultLocalSigningSeed := rfl
  obtain ⟨own, hv⟩ := exists_compiled hseed hclass
  obtain ⟨receipted, hr⟩ := exists_receipt_of_fields rt hseed own
  obtain ⟨quarantine, hq, _⟩ := exists_signObject rt
    (quarantineFields (.obj own) (.obj receipted) suiteOptions) hseed
  obtain ⟨repair, hp, _⟩ := exists_signObject rt
    (repairFields (.obj own) (.obj receipted) (.obj quarantine) suiteOptions) hseed
  refine ⟨⟨.obj own, .obj receipted, .obj quarantine, .obj repair⟩, ?_⟩
  rw [compileStages, hv, ok_bind, hr, ok_bind]
  have hrouted : routeQuarantine rt (.obj own) (.obj receipted) suiteOptions =
      .ok (.obj quarantine) := hq
  have hdrafted : compileDryRunRepairPacket rt (.obj own) (.obj receipted) (.obj quarantine)
      suiteOptions = .ok (.obj repair) := hp
  rw [hrouted, ok_bind, hdrafted, ok_bind]
  rfl

theorem stages_signed (h : compileStages rt candidate = .ok stages) :
    signatureOk rt stages.quarantine = .ok true ∧ signatureOk rt stages.repair_packet = .ok true := by
  obtain ⟨verdict, hv, h⟩ := bind_eq_ok.mp h
  obtain ⟨receipt, hr, h⟩ := bind_eq_ok.mp h
  obtain ⟨quarantine, hq, h⟩ := bind_eq_ok.mp h
  obtain ⟨repair, hp, h⟩ := bind_eq_ok.mp h
  cases h
  obtain ⟨_, _, hq⟩ := bind_eq_ok.mp hq
  obtain ⟨_, _, hq⟩ := bind_eq_ok.mp hq
  obtain ⟨_, _, hp⟩ := bind_eq_ok.mp hp
  obtain ⟨_, _, hp⟩ := bind_eq_ok.mp hp
  obtain ⟨_, _, hp⟩ := bind_eq_ok.mp hp
  obtain ⟨_, rfl⟩ := isObject_of_signObject hq
  obtain ⟨_, rfl⟩ := isObject_of_signObject hp
  exact ⟨Replay.verify_of_signObject hq, Replay.verify_of_signObject hp⟩

/-- The result of a file holds its stages, both of which verify. -/
theorem suiteResult_eq_ok_iff (file : String) (result : Value) :
    suiteResult rt file candidate = .ok result ↔
      ∃ stages, compileStages rt candidate = .ok stages ∧
        result = .obj (resultFields file stages true true) := by
  rw [suiteResult, bind_eq_ok]
  refine exists_congr (fun stages => and_congr_right (fun h => ?_))
  obtain ⟨hq, hp⟩ := stages_signed h
  rw [hq, ok_bind, hp, ok_bind]
  rw [show ∀ v : Value, (pure v : Except JsError Value) = .ok v from fun _ => rfl, Except.ok.injEq,
    eq_comm]

end Stages

end Admissorium.Pipeline.QuarantineSuite
