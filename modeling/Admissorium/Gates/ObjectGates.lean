import Admissorium.Findings
import Admissorium.JavaScript.Text

/-!
# The recognition and the recourse gate

`src/admission/assert-recognition-object-required` and `assert-recourse-object-required`: each
gate checks one object field by field, then its index, the objects it is bound to and the
projection. A gate is red exactly when one of these checks fails. No check asks whether the
verification or the recognition it rests on has passed.
-/
namespace Admissorium.Gates
set_option autoImplicit false

open JavaScript Findings

inductive GateStatus where
  | green
  | yellow
  | red
  deriving DecidableEq, Repr

structure GateFinding where
  status : GateStatus
  code : String
  message : String
  deriving DecidableEq, Repr

structure GateReport where
  status : GateStatus
  gate : String
  findings : List GateFinding
  deriving DecidableEq, Repr

/-- The worst status among the findings. -/
def statusOf (findings : List GateFinding) : GateStatus :=
  if findings.any (fun f => f.status = .red) then .red
  else if findings.any (fun f => f.status = .yellow) then .yellow
  else .green

def redIf (failed : Bool) (code message : String) : List GateFinding :=
  pushIf failed { status := .red, code, message }

def yellowIf (failed : Bool) (code message : String) : List GateFinding :=
  pushIf failed { status := .yellow, code, message }

/-! ## What a check asks -/

/-- `typeof value === "string" && value.endsWith(expected)`. -/
def suffix (value : Value) (expected : String) : Bool :=
  match value with
  | .str s => Text.endsWith s expected
  | _ => false

/-- What a check asks of one field. -/
inductive Demand where
  | equals (expected : Value)
  | suffix (expected : String)
  | nonempty

def Demand.met (demand : Demand) (value : Value) : Bool :=
  match demand with
  | .equals expected => value.strictEquals expected
  | .suffix expected => Gates.suffix value expected
  | .nonempty =>
      match value with
      | .str s => s ≠ ""
      | _ => false

/-- One finding, and the fields it covers. -/
structure Check where
  demands : List (String × Demand)
  code : String
  message : String

def Check.fails (check : Check) (record : Value) : Bool :=
  check.demands.any (fun demand => !demand.2.met (record.get demand.1))

def isTrue : Demand := .equals (.bool true)
def isFalse : Demand := .equals (.bool false)
def isText (text : String) : Demand := .equals (.str text)

/-- The checks of the object itself, or that it is missing. -/
def objectFindings (record : Value) (missing : String × String) (checks : List Check) :
    List GateFinding :=
  if !record.truthy then redIf true missing.1 missing.2
  else checks.flatMap (fun check => redIf (check.fails record) check.code check.message)

/-- `!record || record.key !== id`. -/
def notNamed (record : Value) (key id : String) : Bool :=
  !record.truthy || !(record.get key).strictEquals (.str id)

/-- `record && record.key !== id`. -/
def substituted (record : Value) (key id : String) : Bool :=
  record.truthy && !(record.get key).strictEquals (.str id)

/-- An object the gate is bound to, where one is supplied. -/
structure Bound where
  record : Value
  key : String
  id : String
  code : String
  message : String

def boundFindings (bounds : List Bound) : List GateFinding :=
  bounds.flatMap (fun b => redIf (substituted b.record b.key b.id) b.code b.message)

/-- Only a record has own properties under these names. -/
def hasOwn (record : Value) (key : String) : Bool :=
  match record with
  | .obj fields => (fields.lookup key).isSome
  | _ => false

def projectionFindings (projection : Value) (keys : List String) (code message : String) :
    List GateFinding :=
  if projection.truthy then keys.flatMap (fun key => redIf (hasOwn projection key) code message)
  else []

/-- The chain lock is asked for the claim class only where it has an array of stages. -/
def chainFindings (chainLock : Value) (claim_class code message : String) : List GateFinding :=
  match chainLock.get "chain" with
  | .arr chain =>
      let classes := (chain.map (fun item => item.get "claim_class")).filter Value.truthy
      yellowIf (!classes.any (fun c => c.strictEquals (.str claim_class))) code message
  | _ => []

/-! ## The recognition gate -/

structure RecognitionObjectRequiredInput where
  recognitionObject : Value := .undefined
  recognitionObjectIndex : Value := .undefined
  verificationResult : Value := .undefined
  replayBundle : Value := .undefined
  authorityObject : Value := .undefined
  freezeObject : Value := .undefined
  acceptedEpoch : Value := .undefined
  chainLock : Value := .undefined
  projection : Value := .undefined

def recognitionChecks : List Check :=
  [⟨[("object_type", isText "RecognitionObject")],
      "RECOGNITION_OBJECT_WRONG_OBJECT_TYPE", "recognition object_type must be RecognitionObject."⟩,
    ⟨[("recognition_object_id", isText "recognition-object-0001")],
      "RECOGNITION_OBJECT_SUBSTITUTION", "recognition object id is not recognition-object-0001."⟩,
    ⟨[("status", isText "ACTIVE_TRUTH")],
      "RECOGNITION_OBJECT_NOT_ACTIVE_TRUTH", "recognition object must be ACTIVE_TRUTH."⟩,
    ⟨[("claim_class", isText "recognition-object")],
      "RECOGNITION_OBJECT_WRONG_CLAIM_CLASS",
      "recognition object must bind claim_class=recognition-object."⟩,
    ⟨[("artifact_id", isText "artifact-0005")],
      "RECOGNITION_OBJECT_WRONG_ARTIFACT", "recognition object must bind artifact-0005."⟩,
    ⟨[("recognition_passed", isTrue), ("terminal_recognition", isTrue)],
      "RECOGNITION_OBJECT_NOT_TERMINAL", "recognition object must record terminal recognition."⟩,
    ⟨[("verification_result_ref", .suffix "/verification/current/verification-result-0001.json")],
      "RECOGNITION_OBJECT_VERIFICATION_REF_DRIFT",
      "recognition object must bind verification-result-0001."⟩,
    ⟨[("replay_bundle_ref", .suffix "/replay/current/replay-bundle-0001.json")],
      "RECOGNITION_OBJECT_REPLAY_BUNDLE_REF_DRIFT", "recognition object must bind replay-bundle-0001."⟩,
    ⟨[("authority_object_ref", .suffix "/authorities/current/authority-object-0001.json")],
      "RECOGNITION_OBJECT_AUTHORITY_REF_DRIFT", "recognition object must bind authority-object-0001."⟩,
    ⟨[("freeze_object_ref", .suffix "/freeze/objects/current/freeze-object-0001.json")],
      "RECOGNITION_OBJECT_FREEZE_REF_DRIFT", "recognition object must bind freeze-object-0001."⟩,
    ⟨[("accepted_epoch_ref", .suffix "/epochs/current/accepted-epoch-0001.json")],
      "RECOGNITION_OBJECT_ACCEPTED_EPOCH_REF_DRIFT",
      "recognition object must bind accepted-epoch-0001."⟩,
    ⟨[("chain_lock_ref", .suffix "/chains/current/minimum-object-chain-lock-0001.json")],
      "RECOGNITION_OBJECT_CHAIN_LOCK_REF_DRIFT",
      "recognition object must bind minimum-object-chain-lock-0001."⟩,
    ⟨[("recourse_ready", isFalse)],
      "RECOGNITION_OBJECT_RECOURSE_READY_OVERCLAIM",
      "recognition object may not make recourse ready by itself."⟩,
    ⟨[("may_assign_recourse", isFalse), ("may_select_remedy", isFalse),
        ("may_close_recourse", isFalse)],
      "RECOGNITION_RECOURSE_COLLAPSE",
      "recognition object may not assign recourse, select remedy, or close recourse."⟩,
    ⟨[("may_mutate_verification", isFalse), ("may_mutate_authority", isFalse),
        ("may_mutate_accepted_epoch", isFalse)],
      "RECOGNITION_MUTATION_OVERCLAIM",
      "recognition object may not mutate verification, authority, or accepted epoch."⟩,
    ⟨[("may_infer_missing_truth", isFalse)],
      "RECOGNITION_INFERENCE_OVERCLAIM", "recognition object may not infer missing truth."⟩]

def verificationBound (verificationResult : Value) : Bound :=
  ⟨verificationResult, "verification_result_id", "verification-result-0001",
    "VERIFICATION_RESULT_SUBSTITUTION", "bound verification result must be verification-result-0001."⟩

def authorityBound (authorityObject : Value) : Bound :=
  ⟨authorityObject, "authority_object_id", "authority-object-0001",
    "AUTHORITY_OBJECT_SUBSTITUTION", "bound authority object must be authority-object-0001."⟩

def freezeBound (freezeObject : Value) : Bound :=
  ⟨freezeObject, "freeze_object_id", "freeze-object-0001",
    "FREEZE_OBJECT_SUBSTITUTION", "bound freeze object must be freeze-object-0001."⟩

def epochBound (acceptedEpoch : Value) : Bound :=
  ⟨acceptedEpoch, "accepted_epoch_id", "accepted-epoch-0001",
    "ACCEPTED_EPOCH_SUBSTITUTION", "bound accepted epoch must be accepted-epoch-0001."⟩

def recognitionBounds (input : RecognitionObjectRequiredInput) : List Bound :=
  [verificationBound input.verificationResult,
    ⟨input.replayBundle, "replay_bundle_id", "replay-bundle-0001",
      "REPLAY_BUNDLE_SUBSTITUTION", "bound replay bundle must be replay-bundle-0001."⟩,
    authorityBound input.authorityObject, freezeBound input.freezeObject,
    epochBound input.acceptedEpoch]

def recognitionProjectionKeys : List String :=
  ["recognition_object_id", "recognitionObject", "recognition_object", "recognition"]

def assertRecognitionObjectRequired (input : RecognitionObjectRequiredInput) : GateReport :=
  let findings :=
    objectFindings input.recognitionObject
      ("RECOGNITION_OBJECT_MISSING", "recognition-object-0001 is absent.") recognitionChecks ++
    redIf (notNamed input.recognitionObjectIndex "current_recognition_object_ref"
        "recognition/current/recognition-object-0001.json")
      "RECOGNITION_OBJECT_INDEX_DRIFT"
      "recognition object index must point to recognition-object-0001." ++
    boundFindings (recognitionBounds input) ++
    projectionFindings input.projection recognitionProjectionKeys
      "PROJECTION_ADDED_RECOGNITION_OBJECT"
      "projection surfaces may not add or substitute recognition object truth." ++
    chainFindings input.chainLock "recognition-object" "CHAIN_LOCK_RECOGNITION_CLASS_NOT_VISIBLE"
      "active chain lock does not expose recognition-object claim class."
  { status := statusOf findings, gate := "RECOGNITION_OBJECT_REQUIRED", findings }

/-! ## The recourse gate -/

structure RecourseObjectRequiredInput where
  recourseObject : Value := .undefined
  recourseObjectIndex : Value := .undefined
  recognitionObject : Value := .undefined
  verificationResult : Value := .undefined
  authorityObject : Value := .undefined
  freezeObject : Value := .undefined
  acceptedEpoch : Value := .undefined
  chainLock : Value := .undefined
  projection : Value := .undefined

def recourseChecks : List Check :=
  [⟨[("object_type", isText "RecourseObject")],
      "RECOURSE_OBJECT_WRONG_OBJECT_TYPE", "recourse object_type must be RecourseObject."⟩,
    ⟨[("recourse_object_id", isText "recourse-object-0001")],
      "RECOURSE_OBJECT_SUBSTITUTION", "recourse object id is not recourse-object-0001."⟩,
    ⟨[("status", isText "ACTIVE_TRUTH")],
      "RECOURSE_OBJECT_NOT_ACTIVE_TRUTH", "recourse object must be ACTIVE_TRUTH."⟩,
    ⟨[("claim_class", isText "recourse-object")],
      "RECOURSE_OBJECT_WRONG_CLAIM_CLASS",
      "recourse object must bind claim_class=recourse-object."⟩,
    ⟨[("artifact_id", isText "artifact-0005")],
      "RECOURSE_OBJECT_WRONG_ARTIFACT", "recourse object must bind artifact-0005."⟩,
    ⟨[("recognition_object_ref", .suffix "/recognition/current/recognition-object-0001.json")],
      "RECOURSE_OBJECT_RECOGNITION_REF_DRIFT",
      "recourse object must bind recognition-object-0001."⟩,
    ⟨[("verification_result_ref", .suffix "/verification/current/verification-result-0001.json")],
      "RECOURSE_OBJECT_VERIFICATION_REF_DRIFT",
      "recourse object must bind verification-result-0001."⟩,
    ⟨[("authority_object_ref", .suffix "/authorities/current/authority-object-0001.json")],
      "RECOURSE_OBJECT_AUTHORITY_REF_DRIFT", "recourse object must bind authority-object-0001."⟩,
    ⟨[("freeze_object_ref", .suffix "/freeze/objects/current/freeze-object-0001.json")],
      "RECOURSE_OBJECT_FREEZE_REF_DRIFT", "recourse object must bind freeze-object-0001."⟩,
    ⟨[("accepted_epoch_ref", .suffix "/epochs/current/accepted-epoch-0001.json")],
      "RECOURSE_OBJECT_ACCEPTED_EPOCH_REF_DRIFT",
      "recourse object must bind accepted-epoch-0001."⟩,
    ⟨[("chain_lock_ref", .suffix "/chains/current/minimum-object-chain-lock-0001.json")],
      "RECOURSE_OBJECT_CHAIN_LOCK_REF_DRIFT",
      "recourse object must bind minimum-object-chain-lock-0001."⟩,
    ⟨[("recognized_truth_bound", isTrue)],
      "RECOURSE_WITHOUT_BOUND_RECOGNITION",
      "recourse object must bind recognized truth before consequence."⟩,
    ⟨[("claim_posture", .nonempty)],
      "RECOURSE_CLAIM_POSTURE_MISSING", "recourse object must state claim posture."⟩,
    ⟨[("burden_assignment", .nonempty)],
      "RECOURSE_BURDEN_ASSIGNMENT_MISSING", "recourse object must state burden assignment."⟩,
    ⟨[("remedy_path", .nonempty)],
      "RECOURSE_REMEDY_PATH_MISSING", "recourse object must state remedy path."⟩,
    ⟨[("escalation_path", .nonempty)],
      "RECOURSE_ESCALATION_PATH_MISSING", "recourse object must state escalation path."⟩,
    ⟨[("closure_state", .nonempty)],
      "RECOURSE_CLOSURE_STATE_MISSING", "recourse object must state closure state."⟩,
    ⟨[("may_redefine_recognition", isFalse), ("may_generate_recognition", isFalse),
        ("may_mutate_recognition", isFalse)],
      "RECOURSE_RECOGNITION_COLLAPSE",
      "recourse object may not redefine, generate, or mutate recognition."⟩,
    ⟨[("may_mutate_verification", isFalse), ("may_mutate_authority", isFalse),
        ("may_mutate_accepted_epoch", isFalse), ("may_mutate_chain_lock", isFalse)],
      "RECOURSE_MUTATION_OVERCLAIM",
      "recourse object may not mutate verification, authority, accepted epoch, or chain lock."⟩,
    ⟨[("may_infer_missing_truth", isFalse)],
      "RECOURSE_INFERENCE_OVERCLAIM", "recourse object may not infer missing truth."⟩]

def recourseBounds (input : RecourseObjectRequiredInput) : List Bound :=
  [verificationBound input.verificationResult, authorityBound input.authorityObject,
    freezeBound input.freezeObject, epochBound input.acceptedEpoch]

def recourseProjectionKeys : List String :=
  ["recourse_object_id", "recourseObject", "recourse_object", "recourse"]

/-- `record && record.terminal_recognition !== true`. -/
def notTerminal (recognition : Value) : Bool :=
  recognition.truthy && !(recognition.get "terminal_recognition").strictEquals (.bool true)

def assertRecourseObjectRequired (input : RecourseObjectRequiredInput) : GateReport :=
  let findings :=
    objectFindings input.recourseObject
      ("RECOURSE_OBJECT_MISSING", "recourse-object-0001 is absent.") recourseChecks ++
    redIf (notNamed input.recourseObjectIndex "current_recourse_object_ref"
        "recourse/current/recourse-object-0001.json")
      "RECOURSE_OBJECT_INDEX_DRIFT" "recourse object index must point to recourse-object-0001." ++
    redIf (notNamed input.recognitionObject "recognition_object_id" "recognition-object-0001")
      "BOUND_RECOGNITION_OBJECT_MISSING_OR_SUBSTITUTED"
      "recourse requires bound recognition-object-0001." ++
    redIf (notTerminal input.recognitionObject)
      "BOUND_RECOGNITION_NOT_TERMINAL" "bound recognition object must be terminal before recourse." ++
    boundFindings (recourseBounds input) ++
    projectionFindings input.projection recourseProjectionKeys
      "PROJECTION_ADDED_RECOURSE_OBJECT"
      "projection surfaces may not add or substitute recourse object truth." ++
    chainFindings input.chainLock "recourse-object" "CHAIN_LOCK_RECOURSE_CLASS_NOT_VISIBLE"
      "active chain lock does not expose recourse-object claim class."
  { status := statusOf findings, gate := "RECOURSE_OBJECT_REQUIRED", findings }

/-! ## When a gate is red -/

def IsRed (f : GateFinding) : Prop := f.status = .red

theorem statusOf_eq_red_iff (findings : List GateFinding) :
    statusOf findings = .red ↔ ¬ Free IsRed findings := by
  have hany : findings.any (fun f => f.status = .red) = true ↔ ¬ Free IsRed findings :=
    any_eq_true_iff_not_free findings
  rw [statusOf, ← hany]
  constructor
  · intro hstatus
    by_contra hnone
    rw [if_neg hnone] at hstatus
    split at hstatus <;> cases hstatus
  · exact fun hred => if_pos hred

theorem noRed_redIf (failed : Bool) (code message : String) :
    Free IsRed (redIf failed code message) ↔ failed = false := by
  refine free_pushIf ?_ failed
  rfl

/-- A claim class that is not visible is no reason to be red. -/
theorem noRed_chainFindings (chainLock : Value) (claim_class code message : String) :
    Free IsRed (chainFindings chainLock claim_class code message) := by
  unfold chainFindings
  split
  · exact free_pushIf_of_not nofun _
  · exact free_nil

/-- Every field a check covers has what the check asks. -/
def Meets (record : Value) (checks : List Check) : Prop :=
  ∀ check ∈ checks, ∀ demand ∈ check.demands, demand.2.met (record.get demand.1) = true

theorem noRed_objectFindings (record : Value) (missing : String × String) (checks : List Check) :
    Free IsRed (objectFindings record missing checks) ↔ record.truthy = true ∧ Meets record checks := by
  unfold objectFindings
  cases record.truthy with
  | false => simp [noRed_redIf]
  | true =>
      simp only [Bool.not_true, Bool.false_eq_true, if_false, free_flatMap, noRed_redIf, true_and,
        Meets, Check.fails, List.any_eq_false, Bool.not_eq_true, Bool.not_eq_false']

theorem notNamed_eq_false_iff (record : Value) (key id : String) :
    notNamed record key id = false ↔ record.truthy = true ∧ record.get key = .str id := by
  rw [notNamed, Bool.or_eq_false_iff, Bool.not_eq_false', Bool.not_eq_false', Value.strictEquals_str]

theorem noRed_boundFindings (bounds : List Bound) : Free IsRed (boundFindings bounds) ↔
    ∀ b ∈ bounds, b.record.truthy = true → b.record.get b.key = .str b.id := by
  refine free_flatMap.trans (forall₂_congr (fun b _ => ?_))
  rw [noRed_redIf, substituted, Bool.and_eq_false_imp, Bool.not_eq_false', Value.strictEquals_str]

theorem noRed_projectionFindings (projection : Value) (keys : List String)
    (code message : String) : Free IsRed (projectionFindings projection keys code message) ↔
      ∀ key ∈ keys, hasOwn projection key = false := by
  unfold projectionFindings
  by_cases h : projection.truthy = true
  · rw [if_pos h]
    exact free_flatMap.trans (forall₂_congr (fun key _ => noRed_redIf _ _ _))
  · rw [if_neg h]
    refine ⟨fun _ key _ => ?_, fun _ f hf => absurd hf List.not_mem_nil⟩
    cases projection with
    | obj fields => exact absurd rfl h
    | _ => rfl

/-- What the recognition gate asks of its input. -/
structure RecognitionMet (input : RecognitionObjectRequiredInput) : Prop where
  present : input.recognitionObject.truthy = true
  object : Meets input.recognitionObject recognitionChecks
  index : input.recognitionObjectIndex.truthy = true ∧
    input.recognitionObjectIndex.get "current_recognition_object_ref" =
      .str "recognition/current/recognition-object-0001.json"
  bound : ∀ b ∈ recognitionBounds input, b.record.truthy = true → b.record.get b.key = .str b.id
  projection : ∀ key ∈ recognitionProjectionKeys, hasOwn input.projection key = false

theorem recognition_red_iff (input : RecognitionObjectRequiredInput) :
    (assertRecognitionObjectRequired input).status = .red ↔ ¬ RecognitionMet input := by
  rw [assertRecognitionObjectRequired, statusOf_eq_red_iff, not_iff_not]
  simp only [free_append, noRed_objectFindings, noRed_redIf, notNamed_eq_false_iff,
    noRed_boundFindings, noRed_projectionFindings, noRed_chainFindings, and_true]
  constructor
  · intro h
    obtain ⟨⟨⟨⟨hpresent, hobject⟩, hindex⟩, hbound⟩, hprojection⟩ := h
    exact ⟨hpresent, hobject, hindex, hbound, hprojection⟩
  · exact fun h => ⟨⟨⟨⟨h.present, h.object⟩, h.index⟩, h.bound⟩, h.projection⟩

/-- What the recourse gate asks of its input. -/
structure RecourseMet (input : RecourseObjectRequiredInput) : Prop where
  present : input.recourseObject.truthy = true
  object : Meets input.recourseObject recourseChecks
  index : input.recourseObjectIndex.truthy = true ∧
    input.recourseObjectIndex.get "current_recourse_object_ref" =
      .str "recourse/current/recourse-object-0001.json"
  recognition : input.recognitionObject.truthy = true ∧
    input.recognitionObject.get "recognition_object_id" = .str "recognition-object-0001"
  terminal : input.recognitionObject.get "terminal_recognition" = .bool true
  bound : ∀ b ∈ recourseBounds input, b.record.truthy = true → b.record.get b.key = .str b.id
  projection : ∀ key ∈ recourseProjectionKeys, hasOwn input.projection key = false

theorem notTerminal_eq_false_iff {recognition : Value} (h : recognition.truthy = true) :
    notTerminal recognition = false ↔
      recognition.get "terminal_recognition" = .bool true := by
  rw [notTerminal, h, Bool.true_and, Bool.not_eq_false', Value.strictEquals_bool]

theorem recourse_red_iff (input : RecourseObjectRequiredInput) :
    (assertRecourseObjectRequired input).status = .red ↔ ¬ RecourseMet input := by
  rw [assertRecourseObjectRequired, statusOf_eq_red_iff, not_iff_not]
  simp only [free_append, noRed_objectFindings, noRed_redIf, notNamed_eq_false_iff,
    noRed_boundFindings, noRed_projectionFindings, noRed_chainFindings, and_true]
  constructor
  · intro h
    obtain ⟨⟨⟨⟨⟨⟨hpresent, hobject⟩, hindex⟩, hrecognition⟩, hterminal⟩, hbound⟩, hprojection⟩ := h
    exact ⟨hpresent, hobject, hindex, hrecognition,
      (notTerminal_eq_false_iff hrecognition.1).mp hterminal, hbound, hprojection⟩
  · intro h
    have hterminal := (notTerminal_eq_false_iff h.recognition.1).mpr h.terminal
    exact ⟨⟨⟨⟨⟨⟨h.present, h.object⟩, h.index⟩, h.recognition⟩, hterminal⟩, h.bound⟩, h.projection⟩

/-! ## No object outruns what it rests on -/

/-- The gate is red where the verification it is given has failed. -/
def RecognitionFollows (input : RecognitionObjectRequiredInput) : Prop :=
  input.verificationResult.get "verification_passed" = .bool false →
    (assertRecognitionObjectRequired input).status = .red

/-- The gate is red where the verification it is given has failed, or the recognition it is
given has failed or is not terminal. -/
def RecourseFollows (input : RecourseObjectRequiredInput) : Prop :=
  input.verificationResult.get "verification_passed" = .bool false ∨
    (input.recognitionObject.truthy = true ∧
      (input.recognitionObject.get "recognition_passed" = .bool false ∨
        input.recognitionObject.get "terminal_recognition" ≠ .bool true)) →
    (assertRecourseObjectRequired input).status = .red

/-- A recognition that is not terminal makes the recourse gate red. -/
theorem recourse_red_of_not_terminal {input : RecourseObjectRequiredInput}
    (h : input.recognitionObject.get "terminal_recognition" ≠ .bool true) :
    (assertRecourseObjectRequired input).status = .red :=
  (recourse_red_iff input).mpr (fun hmet => h hmet.terminal)

theorem recognitionFollows_iff (input : RecognitionObjectRequiredInput) :
    RecognitionFollows input ↔
      input.verificationResult.get "verification_passed" ≠ .bool false ∨
        ¬ RecognitionMet input := by
  rw [RecognitionFollows, recognition_red_iff, imp_iff_not_or]

theorem recourseFollows_iff (input : RecourseObjectRequiredInput) :
    RecourseFollows input ↔
      (input.verificationResult.get "verification_passed" ≠ .bool false ∧
        input.recognitionObject.get "recognition_passed" ≠ .bool false) ∨
        ¬ RecourseMet input := by
  rw [RecourseFollows, recourse_red_iff]
  constructor
  · intro h
    by_cases hmet : RecourseMet input
    · refine Or.inl ⟨fun hv => h (Or.inl hv) hmet, fun hr => ?_⟩
      exact h (Or.inr ⟨hmet.recognition.1, Or.inl hr⟩) hmet
    · exact Or.inr hmet
  · intro h hfailed hmet
    obtain ⟨hverification, hrecognition⟩ := h.resolve_right (fun hnot => hnot hmet)
    obtain hv | ⟨_, hr | hterminal⟩ := hfailed
    · exact hverification hv
    · exact hrecognition hr
    · exact hterminal hmet.terminal

/-- Each gate follows what it rests on exactly when nothing has explicitly failed that it does
not read, or another of its checks fails. -/
theorem follows_iff (recognition : RecognitionObjectRequiredInput)
    (recourse : RecourseObjectRequiredInput) :
    (RecognitionFollows recognition ↔
      recognition.verificationResult.get "verification_passed" ≠ .bool false ∨
        ¬ RecognitionMet recognition) ∧
    (RecourseFollows recourse ↔
      (recourse.verificationResult.get "verification_passed" ≠ .bool false ∧
        recourse.recognitionObject.get "recognition_passed" ≠ .bool false) ∨
        ¬ RecourseMet recourse) :=
  ⟨recognitionFollows_iff recognition, recourseFollows_iff recourse⟩

/-! ## Inputs that outrun a failed predecessor -/

def falseFields (keys : List String) : List (String × Value) :=
  keys.map (fun key => (key, .bool false))

def textFields (entries : List (String × String)) : List (String × Value) :=
  entries.map (fun entry => (entry.1, .str entry.2))

def failedVerification : Value :=
  .obj [("verification_result_id", .str "verification-result-0001"),
    ("verification_passed", .bool false)]

/-- An active recognition object, supplied with a verification that has failed. -/
def recognizedFailure : RecognitionObjectRequiredInput where
  recognitionObject := .obj (textFields [("object_type", "RecognitionObject"),
      ("recognition_object_id", "recognition-object-0001"), ("status", "ACTIVE_TRUTH"),
      ("claim_class", "recognition-object"), ("artifact_id", "artifact-0005"),
      ("verification_result_ref", "VERIFRAX/verification/current/verification-result-0001.json"),
      ("replay_bundle_ref", "VERIFRAX/replay/current/replay-bundle-0001.json"),
      ("authority_object_ref", "AUCTORISEAL/authorities/current/authority-object-0001.json"),
      ("freeze_object_ref", "SYNTAGMARIUM/freeze/objects/current/freeze-object-0001.json"),
      ("accepted_epoch_ref", "ORBISTIUM/epochs/current/accepted-epoch-0001.json"),
      ("chain_lock_ref", "ORBISTIUM/chains/current/minimum-object-chain-lock-0001.json")] ++
    [("recognition_passed", .bool true), ("terminal_recognition", .bool true)] ++
    falseFields ["recourse_ready", "may_assign_recourse", "may_select_remedy", "may_close_recourse",
      "may_mutate_verification", "may_mutate_authority", "may_mutate_accepted_epoch",
      "may_infer_missing_truth"])
  recognitionObjectIndex := .obj
    [("current_recognition_object_ref", .str "recognition/current/recognition-object-0001.json")]
  verificationResult := failedVerification

/-- An active recourse object, supplied with a verification and a recognition that have failed. -/
def recourseAfterFailure : RecourseObjectRequiredInput where
  recourseObject := .obj (textFields [("object_type", "RecourseObject"),
      ("recourse_object_id", "recourse-object-0001"), ("status", "ACTIVE_TRUTH"),
      ("claim_class", "recourse-object"), ("artifact_id", "artifact-0005"),
      ("recognition_object_ref", "ANAGNORIUM/recognition/current/recognition-object-0001.json"),
      ("verification_result_ref", "VERIFRAX/verification/current/verification-result-0001.json"),
      ("authority_object_ref", "AUCTORISEAL/authorities/current/authority-object-0001.json"),
      ("freeze_object_ref", "SYNTAGMARIUM/freeze/objects/current/freeze-object-0001.json"),
      ("accepted_epoch_ref", "ORBISTIUM/epochs/current/accepted-epoch-0001.json"),
      ("chain_lock_ref", "ORBISTIUM/chains/current/minimum-object-chain-lock-0001.json"),
      ("claim_posture", "BOUND_RECOURSE_FROM_RECOGNIZED_TRUTH"),
      ("burden_assignment", "SYSTEM_RECOURSE_BURDEN_ATTACHED_TO_RECOGNIZED_ARTIFACT_CLAIM"),
      ("remedy_path", "PUBLIC_OBJECT_COMPLETION_AND_BOUNDARY_PRESERVATION"),
      ("escalation_path", "GOVERNANCE_REVIEW_IF_RECOGNITION_OR_RECOURSE_BOUNDARY_DRIFTS"),
      ("closure_state", "OPEN_NOT_CLOSED")] ++ [("recognized_truth_bound", .bool true)] ++
    falseFields ["may_redefine_recognition", "may_generate_recognition", "may_mutate_recognition",
      "may_mutate_verification", "may_mutate_authority", "may_mutate_accepted_epoch",
      "may_mutate_chain_lock", "may_infer_missing_truth"])
  recourseObjectIndex := .obj
    [("current_recourse_object_ref", .str "recourse/current/recourse-object-0001.json")]
  recognitionObject := .obj [("recognition_object_id", .str "recognition-object-0001"),
    ("recognition_passed", .bool false), ("terminal_recognition", .bool true)]
  verificationResult := failedVerification

theorem failedVerification_not_followed :
    ¬ RecognitionFollows recognizedFailure ∧ ¬ RecourseFollows recourseAfterFailure := by
  have hfailed : failedVerification.get "verification_passed" = .bool false := rfl
  constructor
  · intro h
    have hred := h hfailed
    revert hred
    decide +kernel
  · intro h
    have hred := h (Or.inl hfailed)
    revert hred
    decide +kernel

end Admissorium.Gates
