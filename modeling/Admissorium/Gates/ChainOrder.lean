import Admissorium.Findings
import Admissorium.JavaScript.KeySort
import Admissorium.JavaScript.Text
import Admissorium.Reports
import Mathlib.Algebra.Order.Ring.Unbundled.Rat

/-!
# The constitutional order of the chain

Three gates of `src/admission` look at one chain lock: claim classes are admitted in its order,
the accepted epoch lists them in its order, and the order itself is the expected one. The first
two gates sort by a number, the third pins every position, and what all three leave is one list.
-/
namespace Admissorium.Gates.ChainOrder
set_option autoImplicit false

open JavaScript KeySort Reports Findings

structure AdmittedClaimClass where
  order : Number
  claim_class : String
  owner : String
  required : Bool

structure ClaimClassAdmissionObject where
  object_type : String
  status : String
  admitted_claim_classes : List AdmittedClaimClass

structure AcceptedClaimClassStateObject where
  object_type : String
  status : String
  accepted_claim_classes : List String

structure ChainLockStage where
  stage : Number
  claim_class : String
  owner : String
  object_ref : String
  status : String

/-- The fields the three gates read of one chain lock. -/
structure ChainLockObject where
  object_type : String
  status : String
  accepted_epoch_ref : Option String := none
  chain : List ChainLockStage

/-- Counts under their names, as own properties of a plain object. -/
abbrev AcceptedEpochCounts := List (String × Number)

structure AcceptedEpochObject where
  object_type : String
  accepted_epoch_id : String
  status : String
  epoch_stage_count : Number
  accepted_claim_classes : List String
  accepted_counts : AcceptedEpochCounts

structure AdmissionsObject where
  status : String
  count_policy : AcceptedEpochCounts

structure ProjectionChain where
  chain_stage_count : Option Number := none
  chain_object_refs : Option (List String) := none

structure ChainFinding where
  severity : Severity
  code : String
  message : String
  deriving DecidableEq, Repr

def redWhen (failed : Bool) (code message : String) : List ChainFinding :=
  pushIf failed { severity := .red, code, message }

def orderedLawClasses (admission : ClaimClassAdmissionObject) : List String :=
  (sortByKey AdmittedClaimClass.order admission.admitted_claim_classes).map AdmittedClaimClass.claim_class

def orderedChainClasses (chainLock : ChainLockObject) : List String :=
  (sortByKey ChainLockStage.stage chainLock.chain).map ChainLockStage.claim_class

def sameOrder (left right : List String) : Bool :=
  left.length = right.length && left.zipIdx.all (fun x => right[x.2]? = some x.1)

/-! ## The three gates -/

/-- What two gates ask of the chain lock itself. -/
def chainLockFindings (chainLock : ChainLockObject) : List ChainFinding :=
  redWhen (chainLock.object_type ≠ "MinimumObjectChainLock")
    "CHAINLOCK_WRONG_OBJECT_TYPE" "Chain lock object_type must be MinimumObjectChainLock." ++
  redWhen (chainLock.status ≠ "ACTIVE_TRUTH")
    "CHAINLOCK_NOT_ACTIVE_TRUTH" "Chain lock must be ACTIVE_TRUTH."

def assertClaimClassAdmissionRequired (admission : ClaimClassAdmissionObject)
    (acceptedState : AcceptedClaimClassStateObject) (chainLock : ChainLockObject) :
    List ChainFinding :=
  redWhen (admission.object_type ≠ "ClaimClassAdmission")
    "CLAIM_CLASS_ADMISSION_WRONG_OBJECT_TYPE"
    "Claim-class admission object_type must be ClaimClassAdmission." ++
  redWhen (admission.status ≠ "ACTIVE_LAW")
    "CLAIM_CLASS_ADMISSION_NOT_ACTIVE_LAW" "Claim-class admission must be ACTIVE_LAW." ++
  redWhen (acceptedState.object_type ≠ "AcceptedClaimClassState")
    "ACCEPTED_CLAIM_CLASS_STATE_WRONG_OBJECT_TYPE"
    "Accepted claim-class state object_type must be AcceptedClaimClassState." ++
  redWhen (acceptedState.status ≠ "ACTIVE_TRUTH")
    "ACCEPTED_CLAIM_CLASS_STATE_NOT_ACTIVE_TRUTH"
    "Accepted claim-class state must be ACTIVE_TRUTH." ++
  chainLockFindings chainLock ++
  redWhen (!sameOrder (orderedLawClasses admission) acceptedState.accepted_claim_classes)
    "CLAIM_CLASS_LAW_STATE_MISMATCH"
    "Claim-class law order does not match accepted claim-class state." ++
  redWhen (!sameOrder acceptedState.accepted_claim_classes (orderedChainClasses chainLock))
    "ACCEPTED_CLAIM_CLASS_CHAINLOCK_MISMATCH"
    "Accepted claim-class state does not match active chain lock." ++
  admission.admitted_claim_classes.flatMap (fun cls =>
    pushIf (!cls.required) { severity := .yellow, code := "CLAIM_CLASS_NOT_REQUIRED"
                             message := cls.claim_class ++ " is admitted but not required." })

def countText (rt : Runtime) (counts : AcceptedEpochCounts) (key : String) : String :=
  match (Record.ofList counts).member key with
  | .own n => rt.numberToString n
  | .inherited => inheritedText key
  | .absent => "undefined"

def countMismatch (rt : Runtime) (counts : AcceptedEpochCounts) (entry : String × Number) :
    List ChainFinding :=
  redWhen ((Record.ofList counts).member entry.1 ≠ .own entry.2)
    ("ACCEPTED_EPOCH_COUNT_MISMATCH_" ++ rt.toUpperCase entry.1)
    ("Accepted epoch count " ++ entry.1 ++ "=" ++ countText rt counts entry.1 ++
      " does not match admissions count " ++ rt.numberToString entry.2 ++ ".")

def assertAcceptedEpochRequired (rt : Runtime) (epoch : AcceptedEpochObject)
    (chainLock : ChainLockObject) (admissions : AdmissionsObject) : List ChainFinding :=
  let chainClasses := orderedChainClasses chainLock
  redWhen (epoch.object_type ≠ "AcceptedEpoch")
    "ACCEPTED_EPOCH_WRONG_OBJECT_TYPE" "Accepted epoch object_type must be AcceptedEpoch." ++
  redWhen (epoch.accepted_epoch_id ≠ "accepted-epoch-0001")
    "ACCEPTED_EPOCH_ID_MISMATCH" "Accepted epoch id must be accepted-epoch-0001." ++
  redWhen (epoch.status ≠ "ACTIVE_TRUTH")
    "ACCEPTED_EPOCH_NOT_ACTIVE_TRUTH" "Accepted epoch must be ACTIVE_TRUTH." ++
  chainLockFindings chainLock ++
  redWhen (admissions.status ≠ "ACTIVE_TRUTH")
    "ADMISSIONS_NOT_ACTIVE_TRUTH" "Admissions object must be ACTIVE_TRUTH." ++
  redWhen (epoch.epoch_stage_count ≠ (chainClasses.length : Nat))
    "ACCEPTED_EPOCH_STAGE_COUNT_MISMATCH"
    ("Accepted epoch stage count " ++ rt.numberToString epoch.epoch_stage_count ++
      " does not match chain stage count " ++ rt.numberToString (chainClasses.length : Nat) ++ ".") ++
  redWhen (!sameOrder epoch.accepted_claim_classes chainClasses)
    "ACCEPTED_EPOCH_CHAIN_CLASS_MISMATCH"
    "Accepted epoch claim classes do not match active chain lock." ++
  admissions.count_policy.flatMap (countMismatch rt epoch.accepted_counts) ++
  redWhen (match chainLock.accepted_epoch_ref with
      | some ref => ref ≠ "" && !Text.endsWith ref "/epochs/current/accepted-epoch-0001.json"
      | none => false)
    "CHAINLOCK_ACCEPTED_EPOCH_REF_MISMATCH"
    "Chain lock accepted_epoch_ref does not point to accepted-epoch-0001."

def expectedOrder : List String :=
  ["law-version", "freeze-object", "accepted-epoch", "authority-object", "execution-receipt",
    "verification-result", "recognition-object", "recourse-object", "continuity-transfer"]

/-- The stage at a place is missing, of another class or of another number. -/
def outOfOrder (chain : List ChainLockStage) (index : Nat) (expected : String) : Bool :=
  match chain[index]? with
  | some actual => actual.claim_class ≠ expected || actual.stage ≠ (index : Nat) + 1
  | none => true

def stageFindings (stage : ChainLockStage) : List ChainFinding :=
  redWhen (stage.status ≠ "ACTIVE_TRUTH")
    "CHAINLOCK_STAGE_NOT_ACTIVE_TRUTH"
    (stage.claim_class ++ " is " ++ stage.status ++ ", expected ACTIVE_TRUTH.") ++
  redWhen (!Text.startsWith stage.object_ref "https://github.com/Verifrax/")
    "CHAINLOCK_OBJECT_REF_NOT_PUBLIC_GITHUB"
    (stage.claim_class ++ " object_ref must resolve to a public Verifrax GitHub object.")

def assertChainlockProjectionConvergence (rt : Runtime) (chainLock : ChainLockObject)
    (projection : ProjectionChain) : List ChainFinding :=
  chainLockFindings chainLock ++
  redWhen (chainLock.chain.length ≠ expectedOrder.length)
    "CHAINLOCK_STAGE_COUNT_INVALID"
    ("Chain lock stage count " ++ rt.numberToString (chainLock.chain.length : Nat) ++
      " does not match expected " ++ rt.numberToString (expectedOrder.length : Nat) ++ ".") ++
  expectedOrder.zipIdx.flatMap (fun entry =>
    redWhen (outOfOrder chainLock.chain entry.2 entry.1)
      "CHAINLOCK_ORDER_MISMATCH"
      ("Chain lock stage " ++ rt.numberToString (entry.2 + 1 : Nat) ++ " must be " ++ entry.1 ++ ".")) ++
  chainLock.chain.flatMap stageFindings ++
  redWhen (match projection.chain_stage_count with
      | some n => n ≠ (chainLock.chain.length : Nat)
      | none => false)
    "PROJECTION_CHAIN_STAGE_COUNT_MISMATCH"
    ("Projection chain stage count " ++
      ((projection.chain_stage_count.map rt.numberToString).getD "undefined") ++
      " does not match chain lock " ++ rt.numberToString (chainLock.chain.length : Nat) ++ ".") ++
  (projection.chain_object_refs.getD []).flatMap (fun ref =>
    redWhen (ref ∉ chainLock.chain.map ChainLockStage.object_ref)
      "PROJECTION_CHAIN_OBJECT_SUBSTITUTION"
      ("Projection references non-chainlocked object " ++ ref ++ "."))

/-! ## What no red finding leaves -/

def IsRed (f : ChainFinding) : Prop := f.severity = .red

instance : DecidablePred IsRed := fun f => inferInstanceAs (Decidable (f.severity = .red))

theorem free_redWhen (failed : Bool) (code message : String) :
    Free IsRed (redWhen failed code message) ↔ failed = false := by
  refine free_pushIf ?_ failed
  rfl

theorem sameOrder_iff (left right : List String) : sameOrder left right = true ↔ left = right := by
  rw [sameOrder, Bool.and_eq_true, decide_eq_true_eq, List.all_eq_true]
  constructor
  · intro h
    refine List.ext_getElem? (fun i => ?_)
    by_cases hi : i < left.length
    · have hmem : (left[i], i) ∈ left.zipIdx := List.mk_mem_zipIdx_iff_getElem?.mpr
        (List.getElem?_eq_getElem hi)
      rw [List.getElem?_eq_getElem hi]
      exact (of_decide_eq_true (h.2 _ hmem)).symm
    · rw [List.getElem?_eq_none (by omega), List.getElem?_eq_none (by omega)]
  · intro h
    refine ⟨congrArg List.length h, fun x hx => decide_eq_true ?_⟩
    rw [← h]
    exact List.mk_mem_zipIdx_iff_getElem?.mp hx

section Gates
variable {rt : Runtime} {admission : ClaimClassAdmissionObject}
  {acceptedState : AcceptedClaimClassStateObject} {epoch : AcceptedEpochObject}
  {admissions : AdmissionsObject} {chainLock : ChainLockObject} {projection : ProjectionChain}

theorem classes_of_claimClassAdmission
    (h : Free IsRed (assertClaimClassAdmissionRequired admission acceptedState chainLock)) :
    orderedLawClasses admission = acceptedState.accepted_claim_classes ∧
      acceptedState.accepted_claim_classes = orderedChainClasses chainLock := by
  simp only [assertClaimClassAdmissionRequired, free_append, free_redWhen, Bool.not_eq_false',
    sameOrder_iff] at h
  obtain ⟨⟨⟨_, hlaw⟩, haccepted⟩, _⟩ := h
  exact ⟨hlaw, haccepted⟩

theorem counts_of_acceptedEpoch (h : Free IsRed (assertAcceptedEpochRequired rt epoch chainLock admissions)) :
    epoch.epoch_stage_count = ((orderedChainClasses chainLock).length : Nat) ∧
      epoch.accepted_claim_classes = orderedChainClasses chainLock ∧
      ∀ entry ∈ admissions.count_policy, epoch.accepted_counts.lookup entry.1 = some entry.2 := by
  simp only [assertAcceptedEpochRequired, countMismatch, free_append, free_redWhen, free_flatMap,
    Bool.not_eq_false', decide_eq_false_iff_not, not_not, sameOrder_iff, Record.member_eq_own] at h
  obtain ⟨⟨⟨⟨_, hcount⟩, hclasses⟩, hpolicy⟩, _⟩ := h
  exact ⟨hcount, hclasses, hpolicy⟩

/-- A list that has at each place what is expected there is the expected list. -/
theorem map_eq_of_places {α β : Type} {f : α → β} {items : List α} {expected : List β}
    (hlength : items.length = expected.length)
    (h : ∀ (i : Nat) e, expected[i]? = some e → ∃ a, items[i]? = some a ∧ f a = e) :
    items.map f = expected := by
  refine List.ext_getElem? (fun i => ?_)
  cases he : expected[i]? with
  | some e =>
      obtain ⟨a, ha, hf⟩ := h i e he
      rw [List.getElem?_map, ha, Option.map_some, hf]
  | none =>
      rw [List.getElem?_eq_none_iff] at he ⊢
      rw [List.length_map]
      omega

theorem stage_at_of_not_outOfOrder {chain : List ChainLockStage} {index : Nat} {expected : String}
    (h : outOfOrder chain index expected = false) : ∃ actual, chain[index]? = some actual ∧
      actual.claim_class = expected ∧ actual.stage = (index : Nat) + 1 := by
  unfold outOfOrder at h
  cases ha : chain[index]? with
  | none => rw [ha] at h; cases h
  | some actual =>
      rw [ha] at h
      simp only [Bool.or_eq_false_iff, decide_eq_false_iff_not, not_not] at h
      exact ⟨actual, rfl, h.1, h.2⟩

def expectedStages : List Number := [1, 2, 3, 4, 5, 6, 7, 8, 9]

/-- The third gate pins every place of the chain. -/
theorem places_of_convergence
    (h : Free IsRed (assertChainlockProjectionConvergence rt chainLock projection)) :
    chainLock.chain.map ChainLockStage.claim_class = expectedOrder ∧
      chainLock.chain.map ChainLockStage.stage = expectedStages ∧
      ∀ refs, projection.chain_object_refs = some refs →
        ∀ ref ∈ refs, ref ∈ chainLock.chain.map ChainLockStage.object_ref := by
  simp only [assertChainlockProjectionConvergence, free_append, free_redWhen, free_flatMap,
    decide_eq_false_iff_not, not_not] at h
  obtain ⟨⟨⟨⟨⟨_, hlength⟩, hplaces⟩, _⟩, _⟩, hrefs⟩ := h
  have hplace : ∀ (i : Nat) e, expectedOrder[i]? = some e → ∃ actual, chainLock.chain[i]? = some actual ∧
      actual.claim_class = e ∧ actual.stage = (i : Number) + 1 := fun i e he =>
    stage_at_of_not_outOfOrder (hplaces (e, i) (List.mk_mem_zipIdx_iff_getElem?.mpr he))
  refine ⟨map_eq_of_places hlength ?_, map_eq_of_places hlength ?_, ?_⟩
  · intro i e he
    obtain ⟨actual, ha, hclass, _⟩ := hplace i e he
    exact ⟨actual, ha, hclass⟩
  · intro i e he
    have hi : i < expectedOrder.length := (List.getElem?_eq_some_iff.mp he).1
    obtain ⟨actual, ha, _, hstage⟩ := hplace i _ (List.getElem?_eq_getElem hi)
    have hnumber : ∀ j : Nat, j < 9 → expectedStages[j]? = some ((j : Number) + 1) := by
      decide +kernel
    rw [hnumber i hi, Option.some.injEq] at he
    exact ⟨actual, ha, hstage.trans he⟩
  · intro refs hsome
    rw [hsome, Option.getD_some] at hrefs
    exact hrefs

/-- Stages that come in order stay as they are. -/
theorem orderedChainClasses_eq (h : chainLock.chain.map ChainLockStage.stage = expectedStages) :
    orderedChainClasses chainLock = chainLock.chain.map ChainLockStage.claim_class := by
  have hsorted : expectedStages.Pairwise (fun a b => a ≤ b) := by decide
  rw [← h, List.pairwise_map] at hsorted
  rw [orderedChainClasses, sortByKey, hsorted.insertionSort_eq]

/-- What the three gates pin together. -/
structure OneOrder (admission : ClaimClassAdmissionObject)
    (acceptedState : AcceptedClaimClassStateObject) (epoch : AcceptedEpochObject)
    (admissions : AdmissionsObject) (chainLock : ChainLockObject) (projection : ProjectionChain) :
    Prop where
  law : orderedLawClasses admission = expectedOrder
  accepted : acceptedState.accepted_claim_classes = expectedOrder
  epoch_classes : epoch.accepted_claim_classes = expectedOrder
  chain : chainLock.chain.map ChainLockStage.claim_class = expectedOrder
  stages : chainLock.chain.map ChainLockStage.stage = expectedStages
  stage_count : epoch.epoch_stage_count = 9
  counts : ∀ entry ∈ admissions.count_policy, epoch.accepted_counts.lookup entry.1 = some entry.2
  refs : ∀ refs, projection.chain_object_refs = some refs →
    ∀ ref ∈ refs, ref ∈ chainLock.chain.map ChainLockStage.object_ref

/-- Three gates without a red finding leave one order. -/
theorem oneOrder_of_gates
    (hadmission : Free IsRed (assertClaimClassAdmissionRequired admission acceptedState chainLock))
    (hepoch : Free IsRed (assertAcceptedEpochRequired rt epoch chainLock admissions))
    (hchain : Free IsRed (assertChainlockProjectionConvergence rt chainLock projection)) :
    OneOrder admission acceptedState epoch admissions chainLock projection := by
  obtain ⟨hlaw, haccepted⟩ := classes_of_claimClassAdmission hadmission
  obtain ⟨hcount, hclasses, hcounts⟩ := counts_of_acceptedEpoch hepoch
  obtain ⟨hplaces, hstages, hrefs⟩ := places_of_convergence hchain
  have hordered : orderedChainClasses chainLock = expectedOrder :=
    (orderedChainClasses_eq hstages).trans hplaces
  rw [hordered] at haccepted hcount hclasses
  exact {
    law := hlaw.trans haccepted
    accepted := haccepted
    epoch_classes := hclasses
    chain := hplaces
    stages := hstages
    stage_count := hcount
    counts := hcounts
    refs := hrefs }

end Gates

/-! ## A chain that passes the three gates -/

def currentCounts : AcceptedEpochCounts :=
  [("governed_repository_count", 35), ("public_repository_count", 36), ("host_count", 12)]

/-- The expected classes at their places, numbered from one. -/
def currentAdmission : ClaimClassAdmissionObject where
  object_type := "ClaimClassAdmission"
  status := "ACTIVE_LAW"
  admitted_claim_classes := (expectedStages.zip expectedOrder).map
    (fun entry => ⟨entry.1, entry.2, "VERIFRAX", true⟩)

def currentState : AcceptedClaimClassStateObject :=
  ⟨"AcceptedClaimClassState", "ACTIVE_TRUTH", expectedOrder⟩

def currentChain : ChainLockObject where
  object_type := "MinimumObjectChainLock"
  status := "ACTIVE_TRUTH"
  chain := (expectedStages.zip expectedOrder).map (fun entry =>
    ⟨entry.1, entry.2, "VERIFRAX", "https://github.com/Verifrax/" ++ entry.2, "ACTIVE_TRUTH"⟩)

def currentEpoch : AcceptedEpochObject :=
  ⟨"AcceptedEpoch", "accepted-epoch-0001", "ACTIVE_TRUTH", 9, expectedOrder, currentCounts⟩

def currentAdmissions : AdmissionsObject := ⟨"ACTIVE_TRUTH", currentCounts⟩

def currentProjection : ProjectionChain where
  chain_stage_count := some 9
  chain_object_refs := some ["https://github.com/Verifrax/law-version"]

theorem oneOrder_of_gates_current : OneOrder currentAdmission currentState currentEpoch
    currentAdmissions currentChain currentProjection := by
  refine @oneOrder_of_gates .ascii _ _ _ _ _ _ ?_ ?_ ?_ <;> decide +kernel

end Admissorium.Gates.ChainOrder
