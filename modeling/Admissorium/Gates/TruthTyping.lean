import Admissorium.Gates.ObjectGates
import Mathlib.Data.List.Dedup

/-!
# Active and historical truth

`src/admission/assert-active-historical-truth-typing-required` asks that each object family has
one active truth and that no other surface claims to be one. The projection and the status
surface are asked with one predicate; of a historical snapshot only two of its five claims are
looked at, so a green gate leaves it the other three (`greenExcludesRivals_iff`).
-/
namespace Admissorium.Gates.TruthTyping
set_option autoImplicit false

open JavaScript Findings

structure ActiveHistoricalTruthTypingInput where
  truthTyping : Value := .undefined
  truthTypingIndex : Value := .undefined
  projection : Value := .undefined
  statusSurface : Value := .undefined
  historicalSnapshot : Value := .undefined

def requiredCategories : List String :=
  ["ACTIVE_LAW", "ACTIVE_TRUTH", "ACTIVE_INDEX", "EVIDENCE_OBJECT", "HISTORICAL_SNAPSHOT",
    "DERIVED_PROJECTION", "STATUS_SURFACE_NOT_TRUTH_SOURCE", "QUARANTINED", "TRANSITIONAL"]

def requiredFamilies : List String :=
  ["claim-class-admission", "accepted-claim-class-state", "chain-lock", "accepted-epoch",
    "freeze-object", "authority-object", "replay-bundle", "verification-result",
    "recognition-object", "recourse-object", "continuity-transfer"]

/-- A value that is a string. -/
def asText : Value → Option String
  | .str s => some s
  | _ => none

def stringArray : Value → List String
  | .arr items => items.filterMap asText
  | _ => []

def currentTruthFamilies : Value → List String
  | .arr items => items.filterMap (fun entry => asText (entry.get "object_family"))
  | _ => []

/-- `new Set(values).size !== values.length`. -/
def hasDuplicate (values : List String) : Bool := values.dedup.length ≠ values.length

def isActiveTruthClaim (value : Value) : Bool :=
  value.truthy &&
    ((value.get "status").strictEquals (.str "ACTIVE_TRUTH") ||
      (value.get "truth_kind").strictEquals (.str "ACTIVE_TRUTH") ||
      (value.get "truth_status").strictEquals (.str "ACTIVE_TRUTH") ||
      (value.get "is_truth_source").strictEquals (.bool true) ||
      (value.get "truth_source").strictEquals (.bool true))

def typingChecks : List Check :=
  [⟨[("object_type", isText "ActiveHistoricalTruthTyping")],
      "TRUTH_TYPING_WRONG_OBJECT_TYPE",
      "truth typing object_type must be ActiveHistoricalTruthTyping."⟩,
    ⟨[("typing_id", isText "active-historical-truth-typing-0001")],
      "TRUTH_TYPING_SUBSTITUTION", "truth typing id must be active-historical-truth-typing-0001."⟩,
    ⟨[("status", isText "ACTIVE_TRUTH")],
      "TRUTH_TYPING_NOT_ACTIVE_TRUTH", "truth typing object must be ACTIVE_TRUTH."⟩]

def policyChecks : List Check :=
  [⟨[("current_truth_policy", isText "ONE_ACTIVE_TRUTH_PER_OBJECT_FAMILY")],
      "CURRENT_TRUTH_POLICY_MISSING",
      "truth typing must declare one active truth per object family."⟩,
    ⟨[("historical_material_policy", isText "MUST_SELF_IDENTIFY_AS_HISTORICAL")],
      "HISTORICAL_TYPING_POLICY_MISSING",
      "historical material must self-identify as historical."⟩,
    ⟨[("projection_policy", isText "PROJECTIONS_NEVER_ACTIVE_TRUTH")],
      "PROJECTION_TYPING_POLICY_MISSING",
      "projections must never type themselves as active truth."⟩,
    ⟨[("status_surface_policy", isText "STATUS_SURFACES_NOT_TRUTH_SOURCE")],
      "STATUS_SURFACE_TYPING_POLICY_MISSING",
      "status surfaces must be typed as non-truth-source."⟩,
    ⟨[("may_promote_projection_to_truth", isFalse), ("may_promote_status_to_truth", isFalse),
        ("may_promote_historical_snapshot_to_current", isFalse), ("may_infer_missing_truth", isFalse)],
      "TRUTH_TYPING_PROMOTION_OVERCLAIM",
      "typing object may not promote projections/status/historical snapshots or infer missing truth."⟩]

def checkFindings (record : Value) (checks : List Check) : List GateFinding :=
  checks.flatMap (fun check => redIf (check.fails record) check.code check.message)

def typingFindings (typing : Value) : List GateFinding :=
  if !typing.truthy then
    redIf true "ACTIVE_HISTORICAL_TRUTH_TYPING_MISSING"
      "active-historical-truth-typing-0001 is absent."
  else
    let categories := stringArray (typing.get "truth_categories")
    let families := currentTruthFamilies (typing.get "current_truth_refs")
    checkFindings typing typingChecks ++
      requiredCategories.flatMap (fun category =>
        redIf (category ∉ categories) "TRUTH_CATEGORY_MISSING"
          ("truth typing must include " ++ category ++ ".")) ++
      requiredFamilies.flatMap (fun family =>
        redIf (family ∉ families) "CURRENT_TRUTH_FAMILY_MISSING"
          ("truth typing must bind current object family " ++ family ++ ".")) ++
      redIf (hasDuplicate families) "DUPLICATE_ACTIVE_TRUTH_FAMILY"
        "truth typing must preserve one active truth per object family." ++
      checkFindings typing policyChecks

def snapshotFindings (historicalSnapshot : Value) : List GateFinding :=
  if historicalSnapshot.truthy then
    redIf ((historicalSnapshot.get "status").strictEquals (.str "ACTIVE_TRUTH") ||
        (historicalSnapshot.get "truth_kind").strictEquals (.str "ACTIVE_TRUTH"))
      "HISTORICAL_SNAPSHOT_CLAIMS_ACTIVE_TRUTH"
      "historical snapshot may not impersonate active truth." ++
    redIf (!(historicalSnapshot.get "historical_status").strictEquals (.str "HISTORICAL_SNAPSHOT"))
      "HISTORICAL_SNAPSHOT_NOT_TYPED"
      "historical snapshot must self-identify as HISTORICAL_SNAPSHOT."
  else []

def assertActiveHistoricalTruthTypingRequired (input : ActiveHistoricalTruthTypingInput) : GateReport :=
  let findings :=
    typingFindings input.truthTyping ++
    redIf (notNamed input.truthTypingIndex "current_truth_typing_ref"
        "truth-typing/current/active-historical-truth-typing-0001.json")
      "TRUTH_TYPING_INDEX_DRIFT"
      "truth typing index must point to active-historical-truth-typing-0001." ++
    redIf (isActiveTruthClaim input.projection) "PROJECTION_CLAIMS_ACTIVE_TRUTH"
      "projection surface may not claim ACTIVE_TRUTH or truth-source status." ++
    redIf (isActiveTruthClaim input.statusSurface) "STATUS_SURFACE_CLAIMS_TRUTH_SOURCE"
      "status surface may not claim ACTIVE_TRUTH or truth-source status." ++
    snapshotFindings input.historicalSnapshot
  { status := if findings.any (fun f => f.status = .red) then .red else .green
    gate := "ACTIVE_HISTORICAL_TRUTH_TYPING_REQUIRED"
    findings }

/-! ## What a green gate should mean -/

variable (input : ActiveHistoricalTruthTypingInput)

/-- The families that the typing names as current truth. -/
def families : List String := currentTruthFamilies (input.truthTyping.get "current_truth_refs")

/-- One active truth for each required family, none twice, and no other surface claims one. -/
structure RivalsExcluded : Prop where
  required_once : ∀ family ∈ requiredFamilies, (families input).count family = 1
  none_twice : ∀ family, (families input).count family ≤ 1
  projection : isActiveTruthClaim input.projection = false
  status_surface : isActiveTruthClaim input.statusSurface = false
  snapshot : isActiveTruthClaim input.historicalSnapshot = false

def GreenExcludesRivals : Prop :=
  (assertActiveHistoricalTruthTypingRequired input).status = .green → RivalsExcluded input

/-- What the gate asks of a snapshot. -/
structure SnapshotTyped (snapshot : Value) : Prop where
  status : snapshot.get "status" ≠ .str "ACTIVE_TRUTH"
  truth_kind : snapshot.get "truth_kind" ≠ .str "ACTIVE_TRUTH"
  historical : snapshot.get "historical_status" = .str "HISTORICAL_SNAPSHOT"

/-- What the gate asks of its input. -/
structure TypingMet : Prop where
  present : input.truthTyping.truthy = true
  object : Meets input.truthTyping (typingChecks ++ policyChecks)
  categories : ∀ category ∈ requiredCategories,
    category ∈ stringArray (input.truthTyping.get "truth_categories")
  families : ∀ family ∈ requiredFamilies, family ∈ families input
  nodup : (TruthTyping.families input).Nodup
  index : input.truthTypingIndex.truthy = true ∧
    input.truthTypingIndex.get "current_truth_typing_ref" =
      .str "truth-typing/current/active-historical-truth-typing-0001.json"
  projection : isActiveTruthClaim input.projection = false
  status_surface : isActiveTruthClaim input.statusSurface = false
  snapshot : input.historicalSnapshot.truthy = true → SnapshotTyped input.historicalSnapshot

/-- A snapshot that makes none of the three claims the gate does not look at. -/
structure SnapshotQuiet (snapshot : Value) : Prop where
  truth_status : snapshot.get "truth_status" ≠ .str "ACTIVE_TRUTH"
  is_truth_source : snapshot.get "is_truth_source" ≠ .bool true
  truth_source : snapshot.get "truth_source" ≠ .bool true

/-! ## When the gate is green -/

theorem hasDuplicate_eq_false_iff (values : List String) : hasDuplicate values = false ↔ values.Nodup := by
  rw [hasDuplicate, decide_eq_false_iff_not, not_not, ← List.dedup_eq_self]
  constructor
  · exact fun h => (List.dedup_sublist values).eq_of_length h
  · exact fun h => congrArg List.length h

theorem notText_iff (v : Value) (s : String) : v.strictEquals (.str s) = false ↔ v ≠ .str s := by
  rw [← Bool.not_eq_true, Value.strictEquals_str]

theorem notBool_iff (v : Value) (b : Bool) : v.strictEquals (.bool b) = false ↔ v ≠ .bool b := by
  rw [← Bool.not_eq_true, Value.strictEquals_bool]

theorem noRed_checkFindings (record : Value) (checks : List Check) :
    Free IsRed (checkFindings record checks) ↔ Meets record checks := by
  simp only [checkFindings, free_flatMap, noRed_redIf, Meets, Check.fails, List.any_eq_false,
    Bool.not_eq_true, Bool.not_eq_false']

theorem meets_append (record : Value) (checks others : List Check) :
    Meets record (checks ++ others) ↔ Meets record checks ∧ Meets record others :=
  List.forall_mem_append

theorem noRed_typingFindings (typing : Value) : Free IsRed (typingFindings typing) ↔
    typing.truthy = true ∧ Meets typing (typingChecks ++ policyChecks) ∧
      (∀ category ∈ requiredCategories, category ∈ stringArray (typing.get "truth_categories")) ∧
      (∀ family ∈ requiredFamilies, family ∈ currentTruthFamilies (typing.get "current_truth_refs")) ∧
      (currentTruthFamilies (typing.get "current_truth_refs")).Nodup := by
  rw [typingFindings, meets_append]
  cases typing.truthy with
  | false => simp [noRed_redIf]
  | true =>
      simp only [Bool.not_true, Bool.false_eq_true, if_false, free_append, free_flatMap,
        noRed_checkFindings, noRed_redIf, hasDuplicate_eq_false_iff, decide_eq_false_iff_not, not_not,
        true_and]
      constructor
      · intro h
        obtain ⟨⟨⟨⟨hobject, hcategories⟩, hfamilies⟩, hnodup⟩, hpolicy⟩ := h
        exact ⟨⟨hobject, hpolicy⟩, hcategories, hfamilies, hnodup⟩
      · intro h
        obtain ⟨⟨hobject, hpolicy⟩, hcategories, hfamilies, hnodup⟩ := h
        exact ⟨⟨⟨⟨hobject, hcategories⟩, hfamilies⟩, hnodup⟩, hpolicy⟩

theorem noRed_snapshotFindings (snapshot : Value) : Free IsRed (snapshotFindings snapshot) ↔
    (snapshot.truthy = true → SnapshotTyped snapshot) := by
  unfold snapshotFindings
  split
  · simp only [free_append, noRed_redIf, Bool.or_eq_false_iff, Bool.not_eq_false',
      Value.strictEquals_str, notText_iff]
    constructor
    · exact fun h _ => ⟨h.1.1, h.1.2, h.2⟩
    · exact fun h => ⟨⟨(h ‹_›).status, (h ‹_›).truth_kind⟩, (h ‹_›).historical⟩
  · exact iff_of_true free_nil (fun h => absurd h ‹_›)

theorem green_iff :
    (assertActiveHistoricalTruthTypingRequired input).status = .green ↔ TypingMet input := by
  have hgreen : ∀ findings : List GateFinding,
      (if findings.any (fun f => f.status = .red) then GateStatus.red else .green) = .green ↔
        Free IsRed findings := fun findings => status_eq_green_iff findings (by decide)
  rw [assertActiveHistoricalTruthTypingRequired, hgreen]
  simp only [free_append, noRed_typingFindings, noRed_redIf, notNamed_eq_false_iff,
    noRed_snapshotFindings]
  constructor
  · intro h
    obtain ⟨⟨⟨⟨⟨hpresent, hobject, hcategories, hfamilies, hnodup⟩, hindex⟩, hprojection⟩, hstatus⟩,
      hsnapshot⟩ := h
    exact ⟨hpresent, hobject, hcategories, hfamilies, hnodup, hindex, hprojection, hstatus, hsnapshot⟩
  · intro h
    exact ⟨⟨⟨⟨⟨h.present, h.object, h.categories, h.families, h.nodup⟩, h.index⟩, h.projection⟩,
      h.status_surface⟩, h.snapshot⟩

/-- A typed snapshot claims no active truth exactly when it is quiet. -/
theorem notClaim_iff_quiet {snapshot : Value}
    (htyped : snapshot.truthy = true → SnapshotTyped snapshot) :
    isActiveTruthClaim snapshot = false ↔ (snapshot.truthy = true → SnapshotQuiet snapshot) := by
  rw [isActiveTruthClaim, Bool.and_eq_false_imp]
  refine forall_congr' (fun hpresent => ?_)
  have hstatus := (htyped hpresent).status
  have hkind := (htyped hpresent).truth_kind
  simp only [Bool.or_eq_false_iff, notText_iff, notBool_iff]
  constructor
  · exact fun h => ⟨h.1.1.2, h.1.2, h.2⟩
  · exact fun h => ⟨⟨⟨⟨hstatus, hkind⟩, h.truth_status⟩, h.is_truth_source⟩, h.truth_source⟩

/-- A green gate excludes every rival exactly when, wherever it is green, the snapshot makes
none of the claims it is not asked about. -/
theorem greenExcludesRivals_iff : GreenExcludesRivals input ↔
    (TypingMet input → input.historicalSnapshot.truthy = true →
      SnapshotQuiet input.historicalSnapshot) := by
  rw [GreenExcludesRivals, green_iff]
  refine forall_congr' (fun hmet => ?_)
  rw [← notClaim_iff_quiet hmet.snapshot]
  constructor
  · exact fun h => h.snapshot
  · intro hsnapshot
    have hcount := List.nodup_iff_count_le_one.mp hmet.nodup
    refine ⟨fun family hfamily => ?_, hcount, hmet.projection, hmet.status_surface, hsnapshot⟩
    exact List.count_eq_one_of_mem hmet.nodup (hmet.families family hfamily)

/-- A complete typing, with a snapshot that says it is a source of truth. -/
def loudSnapshot : ActiveHistoricalTruthTypingInput where
  truthTyping := .obj (textFields [("object_type", "ActiveHistoricalTruthTyping"),
      ("typing_id", "active-historical-truth-typing-0001"), ("status", "ACTIVE_TRUTH"),
      ("current_truth_policy", "ONE_ACTIVE_TRUTH_PER_OBJECT_FAMILY"),
      ("historical_material_policy", "MUST_SELF_IDENTIFY_AS_HISTORICAL"),
      ("projection_policy", "PROJECTIONS_NEVER_ACTIVE_TRUTH"),
      ("status_surface_policy", "STATUS_SURFACES_NOT_TRUTH_SOURCE")] ++
    [("truth_categories", .arr (requiredCategories.map .str)),
      ("current_truth_refs", .arr (requiredFamilies.map fun family =>
        .obj [("object_family", .str family)]))] ++
    falseFields ["may_promote_projection_to_truth", "may_promote_status_to_truth",
      "may_promote_historical_snapshot_to_current", "may_infer_missing_truth"])
  truthTypingIndex := .obj (textFields [("current_truth_typing_ref",
    "truth-typing/current/active-historical-truth-typing-0001.json")])
  historicalSnapshot := .obj [("historical_status", .str "HISTORICAL_SNAPSHOT"),
    ("truth_source", .bool true)]

/-- The gate is green. -/
theorem loudSnapshot_green :
    (assertActiveHistoricalTruthTypingRequired loudSnapshot).status = .green ∧
      ¬ GreenExcludesRivals loudSnapshot := by
  have hgreen : (assertActiveHistoricalTruthTypingRequired loudSnapshot).status = .green := by
    decide +kernel
  refine ⟨hgreen, ?_⟩
  intro h
  have hsnapshot := (h hgreen).snapshot
  revert hsnapshot
  decide

end Admissorium.Gates.TruthTyping
