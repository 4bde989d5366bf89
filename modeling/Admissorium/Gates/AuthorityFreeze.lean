import Admissorium.Gates.ChainOrder
import Admissorium.Gates.ObjectGates
import Admissorium.JavaScript.Mentions

/-!
# The freeze object and the epoch an authority rests on

The verification and the recognition gate know a freeze object and an accepted epoch by their
id fields. `src/admission/assert-authority-freeze-required` looks for the two ids anywhere in
the JSON text of the records, so a record that mentions the id without bearing it passes.
-/
namespace Admissorium.Gates.AuthorityFreeze
set_option autoImplicit false

open JavaScript Findings Reports ChainOrder

/-! ## The verification gate -/

structure VerificationResultRequiredInput where
  verificationResult : Value := .undefined
  verificationResultIndex : Value := .undefined
  replayBundle : Value := .undefined
  authorityObject : Value := .undefined
  freezeObject : Value := .undefined
  acceptedEpoch : Value := .undefined
  chainLock : Value := .undefined
  projection : Value := .undefined

def verificationChecks : List Check :=
  [⟨[("object_type", isText "VerificationResult")],
      "VERIFICATION_RESULT_WRONG_OBJECT_TYPE",
      "verification result object_type must be VerificationResult."⟩,
    ⟨[("verification_result_id", isText "verification-result-0001")],
      "VERIFICATION_RESULT_SUBSTITUTION",
      "verification result id is not verification-result-0001."⟩,
    ⟨[("status", isText "ACTIVE_TRUTH")],
      "VERIFICATION_RESULT_NOT_ACTIVE_TRUTH", "verification result must be ACTIVE_TRUTH."⟩,
    ⟨[("claim_class", isText "verification-result")],
      "VERIFICATION_RESULT_WRONG_CLAIM_CLASS",
      "verification result must bind claim_class=verification-result."⟩,
    ⟨[("artifact_id", isText "artifact-0005")],
      "VERIFICATION_RESULT_WRONG_ARTIFACT", "verification result must bind artifact-0005."⟩,
    ⟨[("verification_passed", isTrue)],
      "VERIFICATION_RESULT_NOT_PASSED",
      "verification result must pass before later recognition surfaces."⟩,
    ⟨[("replay_bundle_ref", .suffix "/replay/current/replay-bundle-0001.json")],
      "VERIFICATION_RESULT_REPLAY_BUNDLE_REF_DRIFT",
      "verification result must bind replay-bundle-0001."⟩,
    ⟨[("authority_object_ref", .suffix "/authorities/current/authority-object-0001.json")],
      "VERIFICATION_RESULT_AUTHORITY_REF_DRIFT",
      "verification result must bind authority-object-0001."⟩,
    ⟨[("freeze_object_ref", .suffix "/freeze/objects/current/freeze-object-0001.json")],
      "VERIFICATION_RESULT_FREEZE_REF_DRIFT", "verification result must bind freeze-object-0001."⟩,
    ⟨[("accepted_epoch_ref", .suffix "/epochs/current/accepted-epoch-0001.json")],
      "VERIFICATION_RESULT_ACCEPTED_EPOCH_REF_DRIFT",
      "verification result must bind accepted-epoch-0001."⟩,
    ⟨[("chain_lock_ref", .suffix "/chains/current/minimum-object-chain-lock-0001.json")],
      "VERIFICATION_RESULT_CHAIN_LOCK_REF_DRIFT",
      "verification result must bind minimum-object-chain-lock-0001."⟩,
    ⟨[("may_recognize_terminal_truth", isFalse)],
      "VERIFICATION_RESULT_RECOGNITION_COLLAPSE",
      "verification result may not recognize terminal truth."⟩,
    ⟨[("may_assign_recourse", isFalse)],
      "VERIFICATION_RESULT_RECOURSE_COLLAPSE", "verification result may not assign recourse."⟩,
    ⟨[("may_mutate_authority", isFalse), ("may_mutate_accepted_epoch", isFalse)],
      "VERIFICATION_RESULT_MUTATION_OVERCLAIM",
      "verification result may not mutate authority or accepted epoch."⟩,
    ⟨[("may_infer_missing_truth", isFalse)],
      "VERIFICATION_RESULT_INFERENCE_OVERCLAIM",
      "verification result may not infer missing truth."⟩]

def verificationBounds (input : VerificationResultRequiredInput) : List Bound :=
  [⟨input.replayBundle, "replay_bundle_id", "replay-bundle-0001",
      "REPLAY_BUNDLE_SUBSTITUTION", "bound replay bundle must be replay-bundle-0001."⟩,
    authorityBound input.authorityObject, freezeBound input.freezeObject,
    epochBound input.acceptedEpoch]

def verificationProjectionKeys : List String :=
  ["verification_result_id", "verificationResult", "verification_result", "verification"]

def assertVerificationResultRequired (input : VerificationResultRequiredInput) : GateReport :=
  let findings :=
    objectFindings input.verificationResult
      ("VERIFICATION_RESULT_MISSING", "verification-result-0001 is absent.") verificationChecks ++
    redIf (notNamed input.verificationResultIndex "current_verification_result_ref"
        "verification/current/verification-result-0001.json")
      "VERIFICATION_RESULT_INDEX_DRIFT"
      "verification result index must point to verification-result-0001." ++
    boundFindings (verificationBounds input) ++
    projectionFindings input.projection verificationProjectionKeys
      "PROJECTION_ADDED_VERIFICATION_RESULT"
      "projection surfaces may not add or substitute verification result truth." ++
    chainFindings input.chainLock "verification-result" "CHAIN_LOCK_VERIFICATION_CLASS_NOT_VISIBLE"
      "active chain lock does not expose verification-result claim class."
  { status := statusOf findings, gate := "VERIFICATION_RESULT_REQUIRED", findings }

/-! ## The authority gate -/

structure AuthorityFreezeRequiredInput where
  freezeObject : Fields
  authorityObject : Fields
  acceptedEpoch : Fields
  chainLock : Fields

structure AuthorityFreezeRequiredReport where
  gate : String
  status : String
  truthWarning : String
  findings : List ChainFinding

def field (record : Fields) (key : String) : Value := (Value.obj record).get key

/-- `typeof value === "string" ? value : ""`. -/
def text : Value → String
  | .str s => s
  | _ => ""

def hasRef (value : Value) (suffix : String) : Bool := Text.endsWith (text value) suffix

/-- `bool(value) !== expected`. -/
def isNot (value : Value) (expected : Bool) : Bool := !value.strictEquals (.bool expected)

/-- `JSON.stringify(record).includes(id)`. A record always has a text. -/
def binds (rt : Runtime) (record : Fields) (id : String) : Bool :=
  Text.includes ((Json.stringify rt (.obj record)).getD "") id

def overclaims : List String :=
  ["may_mutate_law", "may_mutate_accepted_state", "may_mutate_freeze_object",
    "may_infer_missing_truth"]

def assertAuthorityFreezeRequired (rt : Runtime) (input : AuthorityFreezeRequiredInput) :
    AuthorityFreezeRequiredReport :=
  let ⟨freezeObject, authorityObject, acceptedEpoch, chainLock⟩ := input
  let findings :=
    redWhen (!(field freezeObject "status").strictEquals (.str "ACTIVE_TRUTH"))
      "FREEZE_OBJECT_NOT_ACTIVE_TRUTH" "Freeze object must be ACTIVE_TRUTH." ++
    redWhen (!(field authorityObject "status").strictEquals (.str "ACTIVE_TRUTH"))
      "AUTHORITY_OBJECT_NOT_ACTIVE_TRUTH" "Authority object must be ACTIVE_TRUTH." ++
    redWhen (!binds rt freezeObject "freeze-object-0001")
      "FREEZE_OBJECT_ID_MISSING" "Freeze object must bind freeze-object-0001." ++
    redWhen (!hasRef (field authorityObject "freeze_object_ref")
        "/freeze/objects/current/freeze-object-0001.json")
      "AUTHORITY_FREEZE_REF_SUBSTITUTED"
      "Authority object must bind the current freeze-object-0001 path." ++
    redWhen (!hasRef (field authorityObject "accepted_epoch_ref")
        "/epochs/current/accepted-epoch-0001.json")
      "AUTHORITY_ACCEPTED_EPOCH_REF_SUBSTITUTED"
      "Authority object must bind accepted-epoch-0001." ++
    redWhen (!hasRef (field authorityObject "chain_lock_ref")
        "/chains/current/minimum-object-chain-lock-0001.json")
      "AUTHORITY_CHAIN_LOCK_REF_SUBSTITUTED"
      "Authority object must bind minimum-object-chain-lock-0001." ++
    redWhen (isNot (field authorityObject "may_issue_authority_for_scope") true)
      "AUTHORITY_SCOPE_ISSUANCE_NOT_ALLOWED"
      "Authority object must allow authority issuance only for its declared scope." ++
    overclaims.flatMap (fun key =>
      redWhen (isNot (field authorityObject key) false)
        "AUTHORITY_ROLE_OVERCLAIM" ("Authority object must not overclaim " ++ key ++ ".")) ++
    redWhen (!binds rt acceptedEpoch "accepted-epoch-0001")
      "ACCEPTED_EPOCH_CONTEXT_MISSING" "Accepted epoch context must bind accepted-epoch-0001." ++
    redWhen (!binds rt chainLock "minimum-object-chain-lock-0001")
      "CHAIN_LOCK_CONTEXT_MISSING"
      "Chain lock context must bind minimum-object-chain-lock-0001."
  { gate := "AUTHORITY_FREEZE_REQUIRED"
    status := if findings.any (fun f => f.severity = .red) then "FAIL" else "PASS"
    truthWarning := "ADMISSORIUM_NOT_TRUTH_SOURCE"
    findings }

/-! ## What the gates should agree on -/

def ReportsSubstitution (report : GateReport) : Prop :=
  ∃ f ∈ report.findings,
    f.code = "FREEZE_OBJECT_SUBSTITUTION" ∨ f.code = "ACCEPTED_EPOCH_SUBSTITUTION"

variable (rt : Runtime) (input : AuthorityFreezeRequiredInput)

/-- Where one of the two other gates, given the same freeze object and epoch, reports that one
of them is substituted, the authority gate fails. -/
structure SubstitutionDetected : Prop where
  verification : ∀ other : VerificationResultRequiredInput,
    other.freezeObject = .obj input.freezeObject → other.acceptedEpoch = .obj input.acceptedEpoch →
    ReportsSubstitution (assertVerificationResultRequired other) →
    (assertAuthorityFreezeRequired rt input).status = "FAIL"
  recognition : ∀ other : RecognitionObjectRequiredInput,
    other.freezeObject = .obj input.freezeObject → other.acceptedEpoch = .obj input.acceptedEpoch →
    ReportsSubstitution (assertRecognitionObjectRequired other) →
    (assertAuthorityFreezeRequired rt input).status = "FAIL"

/-- The two records bear their ids. -/
def BearIds : Prop :=
  field input.freezeObject "freeze_object_id" = .str "freeze-object-0001" ∧
    field input.acceptedEpoch "accepted_epoch_id" = .str "accepted-epoch-0001"

/-- What the authority gate asks; of three ids, that they are mentioned. -/
structure AuthorityFreezeMet : Prop where
  freeze_active : field input.freezeObject "status" = .str "ACTIVE_TRUTH"
  authority_active : field input.authorityObject "status" = .str "ACTIVE_TRUTH"
  freeze_mentioned : Json.mentions rt "freeze-object-0001" (.obj input.freezeObject) = true
  freeze_ref : hasRef (field input.authorityObject "freeze_object_ref")
    "/freeze/objects/current/freeze-object-0001.json" = true
  epoch_ref : hasRef (field input.authorityObject "accepted_epoch_ref")
    "/epochs/current/accepted-epoch-0001.json" = true
  chain_ref : hasRef (field input.authorityObject "chain_lock_ref")
    "/chains/current/minimum-object-chain-lock-0001.json" = true
  may_issue : field input.authorityObject "may_issue_authority_for_scope" = .bool true
  no_overclaim : ∀ key ∈ overclaims, field input.authorityObject key = .bool false
  epoch_mentioned : Json.mentions rt "accepted-epoch-0001" (.obj input.acceptedEpoch) = true
  chain_mentioned : Json.mentions rt "minimum-object-chain-lock-0001" (.obj input.chainLock) = true

/-! ## When the authority gate fails -/

/-- No id of the gate has a character of JSON syntax. -/
theorem unstructured_ids : ∀ id ∈ ["freeze-object-0001", "accepted-epoch-0001",
    "minimum-object-chain-lock-0001"], Json.Unstructured id := by
  have hids : ∀ id ∈ ["freeze-object-0001", "accepted-epoch-0001", "minimum-object-chain-lock-0001"],
      id ≠ "" ∧ (∀ d ∈ structural, d ∉ id.toList) ∧ ':' ∉ id.toList ∧
        Text.includes "null" id = false ∧ Text.includes "true" id = false ∧
        Text.includes "false" id = false := by decide +kernel
  intro id hid
  obtain ⟨hne, hstructural, hcolon, hnull, htrue, hfalse⟩ := hids id hid
  refine ⟨hne, hstructural, hcolon, hnull, fun b => ?_⟩
  cases b with
  | false => exact hfalse
  | true => exact htrue

theorem binds_eq_mentions (record : Fields) {id : String} (h : Json.Unstructured id) :
    binds rt record id = Json.mentions rt id (.obj record) := by
  cases htext : Json.stringify rt (.obj record) with
  | none => simp [Json.stringify] at htext
  | some text => rw [binds, htext, Option.getD_some, Json.includes_stringify_obj h htext]

theorem authority_fail_iff :
    (assertAuthorityFreezeRequired rt input).status = "FAIL" ↔ ¬ AuthorityFreezeMet rt input := by
  have hfreeze := binds_eq_mentions rt input.freezeObject
    (unstructured_ids "freeze-object-0001" (by simp))
  have hepoch := binds_eq_mentions rt input.acceptedEpoch
    (unstructured_ids "accepted-epoch-0001" (by simp))
  have hchain := binds_eq_mentions rt input.chainLock
    (unstructured_ids "minimum-object-chain-lock-0001" (by simp))
  have hstatus : ∀ findings : List ChainFinding,
      (if findings.any (fun f => f.severity = .red) then "FAIL" else "PASS") = "FAIL" ↔
        ¬ Free ChainOrder.IsRed findings :=
    fun findings => status_eq_red_iff findings (by decide)
  rw [assertAuthorityFreezeRequired, hstatus, not_iff_not]
  simp only [free_append, free_redWhen, free_flatMap, isNot, Bool.not_eq_false',
    Value.strictEquals_str, Value.strictEquals_bool, hfreeze, hepoch, hchain]
  constructor
  · intro h
    obtain ⟨⟨⟨⟨⟨⟨⟨⟨⟨hfreeze, hauthority⟩, hid⟩, hfreezeRef⟩, hepochRef⟩, hchainRef⟩, hissue⟩,
      hoverclaim⟩, hepoch⟩, hchain⟩ := h
    exact ⟨hfreeze, hauthority, hid, hfreezeRef, hepochRef, hchainRef, hissue, hoverclaim, hepoch,
      hchain⟩
  · intro h
    exact ⟨⟨⟨⟨⟨⟨⟨⟨⟨h.freeze_active, h.authority_active⟩, h.freeze_mentioned⟩, h.freeze_ref⟩,
      h.epoch_ref⟩, h.chain_ref⟩, h.may_issue⟩, h.no_overclaim⟩, h.epoch_mentioned⟩, h.chain_mentioned⟩

theorem authority_pass_iff :
    (assertAuthorityFreezeRequired rt input).status = "PASS" ↔ AuthorityFreezeMet rt input := by
  have hstatus : ∀ red : Bool, (if red then "FAIL" else "PASS") = "PASS" ↔
      ¬ (if red then "FAIL" else "PASS") = "FAIL" := by decide
  rw [← not_iff_not, ← authority_fail_iff, assertAuthorityFreezeRequired, hstatus, not_not]

/-! ## When the other gates report a substitution -/

def HasCode (code : String) (findings : List GateFinding) : Prop :=
  ∃ f ∈ findings, f.code = code

theorem hasCode_append (code : String) (a b : List GateFinding) :
    HasCode code (a ++ b) ↔ HasCode code a ∨ HasCode code b := exists_mem_append

theorem hasCode_flatMap {α : Type} (code : String) (items : List α) (f : α → List GateFinding) :
    HasCode code (items.flatMap f) ↔ ∃ item ∈ items, HasCode code (f item) := exists_mem_flatMap

theorem hasCode_redIf (code : String) (failed : Bool) (other message : String) :
    HasCode code (redIf failed other message) ↔ failed = true ∧ other = code :=
  exists_mem_pushIf failed _

theorem hasCode_yellowIf (code : String) (failed : Bool) (other message : String) :
    HasCode code (yellowIf failed other message) ↔ failed = true ∧ other = code :=
  exists_mem_pushIf failed _

theorem code_of_objectFindings {code : String} {record : Value} {missing : String × String}
    {checks : List Check} (h : HasCode code (objectFindings record missing checks)) :
    code ∈ missing.1 :: checks.map Check.code := by
  unfold objectFindings at h
  split at h
  · rw [hasCode_redIf] at h
    exact h.2 ▸ List.mem_cons_self
  · rw [hasCode_flatMap] at h
    obtain ⟨check, hcheck, hcode⟩ := h
    rw [hasCode_redIf] at hcode
    exact List.mem_cons_of_mem _ (List.mem_map.mpr ⟨check, hcheck, hcode.2⟩)

theorem code_of_projectionFindings {code other message : String} {projection : Value}
    {keys : List String} (h : HasCode code (projectionFindings projection keys other message)) :
    other = code := by
  unfold projectionFindings at h
  split at h
  · rw [hasCode_flatMap] at h
    obtain ⟨key, _, hcode⟩ := h
    exact ((hasCode_redIf _ _ _ _).mp hcode).2
  · obtain ⟨f, hf, _⟩ := h
    cases hf

theorem code_of_chainFindings {code other message claim_class : String} {chainLock : Value}
    (h : HasCode code (chainFindings chainLock claim_class other message)) : other = code := by
  unfold chainFindings at h
  split at h
  · exact ((hasCode_yellowIf _ _ _ _).mp h).2
  · obtain ⟨f, hf, _⟩ := h
    cases hf

theorem hasCode_boundFindings (code : String) (bounds : List Bound) :
    HasCode code (boundFindings bounds) ↔
      ∃ b ∈ bounds, substituted b.record b.key b.id = true ∧ b.code = code := by
  simp only [boundFindings, hasCode_flatMap, hasCode_redIf]

/-- The codes under which a gate reports a freeze object or an epoch. -/
def substitutionCodes : List String := ["FREEZE_OBJECT_SUBSTITUTION", "ACCEPTED_EPOCH_SUBSTITUTION"]

theorem reportsSubstitution_iff (report : GateReport) : ReportsSubstitution report ↔
    ∃ code ∈ substitutionCodes, HasCode code report.findings := by
  simp only [ReportsSubstitution, HasCode, substitutionCodes, List.mem_cons, List.not_mem_nil,
    or_false]
  constructor
  · intro h
    obtain ⟨f, hf, hcode⟩ := h
    exact ⟨f.code, hcode, f, hf, rfl⟩
  · rintro ⟨code, hcode, f, hf, rfl⟩
    exact ⟨f, hf, hcode⟩

/-- A part of a gate with codes of its own. -/
def NoSubstitution (findings : List GateFinding) : Prop :=
  ∀ code ∈ substitutionCodes, ¬ HasCode code findings

theorem noSubstitution_object {record : Value} {missing : String × String} {checks : List Check}
    (h : ∀ code ∈ substitutionCodes, code ∉ missing.1 :: checks.map Check.code) :
    NoSubstitution (objectFindings record missing checks) :=
  fun code hcode hhas => h code hcode (code_of_objectFindings hhas)

theorem noSubstitution_redIf {failed : Bool} {code message : String} (h : code ∉ substitutionCodes) :
    NoSubstitution (redIf failed code message) := by
  intro other hother hhas
  rw [hasCode_redIf] at hhas
  exact h (hhas.2 ▸ hother)

theorem noSubstitution_projection {projection : Value} {keys : List String} {code message : String}
    (h : code ∉ substitutionCodes) : NoSubstitution (projectionFindings projection keys code message) :=
  fun _ hother hhas => h (code_of_projectionFindings hhas ▸ hother)

theorem noSubstitution_chain {chainLock : Value} {claim_class code message : String}
    (h : code ∉ substitutionCodes) : NoSubstitution (chainFindings chainLock claim_class code message) :=
  fun _ hother hhas => h (code_of_chainFindings hhas ▸ hother)

/-- Some record is there and does not bear the id it is bound under. -/
def Substituted (freezeObject acceptedEpoch : Value) : Prop :=
  substituted freezeObject "freeze_object_id" "freeze-object-0001" = true ∨
    substituted acceptedEpoch "accepted_epoch_id" "accepted-epoch-0001" = true

/-- A gate reports a substitution where one of the two bound records does not bear its id. -/
theorem reports_iff_substituted {report : GateReport} {object index projected hidden : List GateFinding}
    {bounds : List Bound} {freezeObject acceptedEpoch : Value}
    (hfindings : report.findings = object ++ index ++ boundFindings bounds ++ projected ++ hidden)
    (hobject : NoSubstitution object) (hindex : NoSubstitution index)
    (hprojected : NoSubstitution projected) (hhidden : NoSubstitution hidden)
    (hbounds : bounds.filter (fun b => b.code ∈ substitutionCodes) =
      [freezeBound freezeObject, epochBound acceptedEpoch]) :
    ReportsSubstitution report ↔ Substituted freezeObject acceptedEpoch := by
  have hpart : ∀ code ∈ substitutionCodes, HasCode code report.findings ↔
      ∃ b ∈ bounds, substituted b.record b.key b.id = true ∧ b.code = code := by
    intro code hcode
    rw [← hasCode_boundFindings, hfindings]
    simp only [hasCode_append, hobject code hcode, hindex code hcode, hprojected code hcode,
      hhidden code hcode, or_false, false_or]
  have hfiltered : ∀ b, (b ∈ bounds ∧ b.code ∈ substitutionCodes) ↔
      b = freezeBound freezeObject ∨ b = epochBound acceptedEpoch := by
    intro b
    have hmem : b ∈ bounds.filter (fun b => b.code ∈ substitutionCodes) ↔
        b ∈ [freezeBound freezeObject, epochBound acceptedEpoch] := by rw [hbounds]
    rw [List.mem_filter, decide_eq_true_eq] at hmem
    rw [hmem, List.mem_cons, List.mem_singleton]
  rw [reportsSubstitution_iff, Substituted]
  constructor
  · rintro ⟨code, hcode, hhas⟩
    obtain ⟨b, hb, hsubstituted, rfl⟩ := (hpart code hcode).mp hhas
    obtain rfl | rfl := (hfiltered b).mp ⟨hb, hcode⟩
    · exact Or.inl hsubstituted
    · exact Or.inr hsubstituted
  · intro h
    have hbound : ∀ b, b = freezeBound freezeObject ∨ b = epochBound acceptedEpoch →
        substituted b.record b.key b.id = true →
        ∃ code ∈ substitutionCodes, HasCode code report.findings := by
      intro b hb hsubstituted
      obtain ⟨hmem, hcode⟩ := (hfiltered b).mpr hb
      exact ⟨b.code, hcode, (hpart b.code hcode).mpr ⟨b, hmem, hsubstituted, rfl⟩⟩
    cases h with
    | inl hfreeze => exact hbound _ (Or.inl rfl) hfreeze
    | inr hepoch => exact hbound _ (Or.inr rfl) hepoch

theorem verification_reports_iff (other : VerificationResultRequiredInput) :
    ReportsSubstitution (assertVerificationResultRequired other) ↔
      Substituted other.freezeObject other.acceptedEpoch := by
  refine reports_iff_substituted rfl
    (noSubstitution_object ?_) (noSubstitution_redIf ?_) (noSubstitution_projection ?_)
    (noSubstitution_chain ?_) ?_
  · decide +kernel
  · decide
  · decide
  · decide
  · simp [verificationBounds, substitutionCodes, authorityBound, freezeBound, epochBound]

theorem recognition_reports_iff (other : RecognitionObjectRequiredInput) :
    ReportsSubstitution (assertRecognitionObjectRequired other) ↔
      Substituted other.freezeObject other.acceptedEpoch := by
  refine reports_iff_substituted rfl
    (noSubstitution_object ?_) (noSubstitution_redIf ?_) (noSubstitution_projection ?_)
    (noSubstitution_chain ?_) ?_
  · decide +kernel
  · decide
  · decide
  · decide
  · simp [recognitionBounds, substitutionCodes, verificationBound, authorityBound, freezeBound,
      epochBound]

/-! ## Where the gates agree -/

theorem substituted_record_iff (record : Fields) (key id : String) :
    substituted (.obj record) key id = true ↔ field record key ≠ .str id := by
  rw [substituted, ← Bool.not_eq_false, Bool.and_eq_false_imp, Bool.not_eq_false',
    Value.strictEquals_str]
  exact ⟨fun h heq => h (fun _ => heq), fun h heq => h (heq rfl)⟩

theorem substituted_iff_not_bearIds : Substituted (.obj input.freezeObject) (.obj input.acceptedEpoch) ↔
    ¬ BearIds input := by
  rw [Substituted, substituted_record_iff, substituted_record_iff, BearIds, not_and_or]

/-- A substitution is detected by the authority gate exactly when the records it passes, by the
rest of its checks and by what they mention, bear their ids. -/
theorem substitutionDetected_iff :
    SubstitutionDetected rt input ↔ (AuthorityFreezeMet rt input → BearIds input) := by
  constructor
  · intro h hmet
    by_contra hids
    have hreports := (verification_reports_iff { freezeObject := .obj input.freezeObject
                                                 acceptedEpoch := .obj input.acceptedEpoch }).mpr
      ((substituted_iff_not_bearIds input).mpr hids)
    exact (authority_fail_iff rt input).mp (h.verification _ rfl rfl hreports) hmet
  · intro h
    have hfail : Substituted (.obj input.freezeObject) (.obj input.acceptedEpoch) →
        (assertAuthorityFreezeRequired rt input).status = "FAIL" := by
      intro hsubstituted
      rw [authority_fail_iff]
      exact fun hmet => (substituted_iff_not_bearIds input).mp hsubstituted (h hmet)
    constructor
    · intro other hfreeze hepoch hreports
      rw [verification_reports_iff, hfreeze, hepoch] at hreports
      exact hfail hreports
    · intro other hfreeze hepoch hreports
      rw [recognition_reports_iff, hfreeze, hepoch] at hreports
      exact hfail hreports

/-- A freeze object that names the expected one in a note only. -/
def notedFreeze : AuthorityFreezeRequiredInput where
  freezeObject := textFields [("object_type", "FreezeObject"),
    ("freeze_object_id", "freeze-object-0002"), ("supersedes", "freeze-object-0001"),
    ("status", "ACTIVE_TRUTH")]
  authorityObject := textFields [("object_type", "AuthorityObject"), ("status", "ACTIVE_TRUTH"),
      ("freeze_object_ref", "SYNTAGMARIUM/freeze/objects/current/freeze-object-0001.json"),
      ("accepted_epoch_ref", "ORBISTIUM/epochs/current/accepted-epoch-0001.json"),
      ("chain_lock_ref", "ORBISTIUM/chains/current/minimum-object-chain-lock-0001.json")] ++
    [("may_issue_authority_for_scope", .bool true)] ++ falseFields overclaims
  acceptedEpoch := textFields [("accepted_epoch_id", "accepted-epoch-0001")]
  chainLock := textFields [("chain_lock_id", "minimum-object-chain-lock-0001")]

theorem notedFreeze_met : AuthorityFreezeMet .ascii notedFreeze where
  freeze_active := rfl
  authority_active := rfl
  freeze_mentioned := by decide +kernel
  freeze_ref := by decide +kernel
  epoch_ref := by decide +kernel
  chain_ref := by decide +kernel
  may_issue := rfl
  no_overclaim := by
    intro key hkey
    simp only [overclaims, List.mem_cons, List.not_mem_nil, or_false] at hkey
    obtain rfl | rfl | rfl | rfl := hkey <;> rfl
  epoch_mentioned := by decide +kernel
  chain_mentioned := by decide +kernel

/-- The verification gate reports it, and the authority gate passes. -/
theorem notedFreeze_not_detected :
    (assertAuthorityFreezeRequired .ascii notedFreeze).status = "PASS" ∧
      ¬ SubstitutionDetected .ascii notedFreeze := by
  have hpass := (authority_pass_iff .ascii notedFreeze).mpr notedFreeze_met
  refine ⟨hpass, ?_⟩
  intro h
  have hreports := (verification_reports_iff { freezeObject := .obj notedFreeze.freezeObject
                                               acceptedEpoch := .obj notedFreeze.acceptedEpoch }).mpr
    (Or.inl (by decide +kernel))
  have hfail := h.verification _ rfl rfl hreports
  rw [hpass] at hfail
  revert hfail
  decide

end Admissorium.Gates.AuthorityFreeze
