import Admissorium.Classify.Classifiers
import Admissorium.Signing

/-!
# Verdicts and receipts

`compileActuatorVerdict` classifies a candidate and signs what follows from the risk;
`compileAdmissionReceipt` records whether a verdict admits it.
-/
namespace Admissorium.Verdict
set_option autoImplicit false

open JavaScript Classify Signing

structure CompileOptions where
  generated_at : Value := .undefined
  signing_seed : Value := .undefined

def epochStart : Value := .str "1970-01-01T00:00:00.000Z"

def boundaryFields : Fields :=
  [("truth_warning", .str "NOT_TRUTH_SOURCE"),
    ("non_sovereign_boundary", .str "ADMISSORIUM does not decide truth.")]

def deniedActions : List String :=
  ["decide_truth", "rewrite_law", "rewrite_current_truth", "direct_main_write", "contents_write",
    "package_publish", "secret_persistence", "webhook_side_effect", "check_run_writer"]

def passFields (risk : TruthRisk) : Fields :=
  [("no_truth_mutation_path_pass", .bool risk.no_truth_mutation_path_pass),
    ("no_direct_main_write_pass", .bool risk.no_direct_main_write_pass),
    ("no_package_publish_path_pass", .bool risk.no_package_publish_path_pass),
    ("no_secret_persistence_pass", .bool risk.no_secret_persistence_pass)]

def blocked (risk : TruthRisk) : Bool := risk.risk ≠ .green

def verdictState (risk : TruthRisk) : String :=
  if blocked risk then "INADMISSIBLE_OR_QUARANTINE" else "ADMISSIBLE_REPORT_ONLY"

def verdictFields (options : CompileOptions) (candidate_id : Value) (surface : Surface)
    (mutation : Mutation) (risk : TruthRisk) : Fields :=
  [("verdict_type", .str "ADMISSORIUM_ACTUATOR_VERDICT"), ("schema_version", .str "1.0.0"),
    ("generated_at", options.generated_at.or epochStart), ("candidate_id", candidate_id),
    ("mode", .str "REPORT_ONLY"),
    ("state", .str (verdictState risk)),
    ("risk", .str risk.risk.text),
    ("decision_pressure", .str (if blocked risk then "BLOCK_OR_QUARANTINE" else "REPORT_ONLY"))] ++
  boundaryFields ++ [("allowed_to_mutate_truth", .bool false)] ++ disabledWriters ++
  [("main_write_enabled", .bool false),
    ("allowed_actions", .arr (if blocked risk then [.str "emit_report", .str "emit_quarantine_record"]
      else [.str "emit_report"])),
    ("denied_actions", .arr (deniedActions.map .str))] ++ passFields risk ++
  [("surface", surface.toValue), ("mutation", mutation.toValue), ("truth_risk", risk.toValue)]

def compileActuatorVerdict (rt : Runtime) (candidate : Value) (options : CompileOptions) :
    Except JsError Value := do
  let surface ← classifySurface rt candidate
  let mutation ← classifyMutation rt candidate surface
  let risk ← classifyTruthRisk candidate surface mutation
  let id := (((← candidate.prop "id").or (← candidate.prop "candidate_id")).or
    (← candidate.prop "name")).or (.str "candidate-unknown")
  signObject rt (verdictFields options id surface mutation risk) options.signing_seed

def receiptFields (verdict_hash : String) (verdict : Value) (options : CompileOptions) : Fields :=
  [("receipt_type", .str "ADMISSORIUM_ADMISSION_RECEIPT"), ("schema_version", .str "1.0.0"),
    ("generated_at", (options.generated_at.or (verdict.get "generated_at")).or epochStart),
    ("candidate_id", verdict.get "candidate_id"), ("verdict_hash", .str verdict_hash),
    ("verdict_state", verdict.get "state"), ("risk", verdict.get "risk"),
    ("admission", .str (match verdict.get "state" with
      | .str "ADMISSIBLE_REPORT_ONLY" => "REPORT_ONLY_ADMISSION"
      | _ => "NOT_ADMITTED"))] ++
  boundaryFields ++ disabledWriters ++
  [("main_write_enabled", .bool false), ("allowed_to_mutate_truth", .bool false),
    ("no_truth_mutation_path_pass", verdict.get "no_truth_mutation_path_pass"),
    ("no_direct_main_write_pass", verdict.get "no_direct_main_write_pass"),
    ("no_package_publish_path_pass", verdict.get "no_package_publish_path_pass"),
    ("no_secret_persistence_pass", verdict.get "no_secret_persistence_pass")]

def compileAdmissionReceipt (rt : Runtime) (verdict : Value) (options : CompileOptions) :
    Except JsError Value := do
  let _ ← verdict.prop "generated_at"
  let verdict_hash ← objectDigest rt verdict
  signObject rt (receiptFields verdict_hash verdict options) options.signing_seed

end Admissorium.Verdict
