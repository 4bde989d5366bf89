import Admissorium.Gates.ChainOrder

/-!
# The order in which a chain is stored

Two gates sort what they compare by a number, and entries with one number stay as they were
stored. Their verdicts depend on the storage exactly where such entries are of different
classes and one of their arrangements is the list they are compared with (`orderFree_iff`).
-/
namespace Admissorium.Gates.StorageOrder
set_option autoImplicit false

open JavaScript Reports Findings KeySort ChainOrder

def HasRed (code : String) (findings : List ChainFinding) : Prop :=
  ∃ f ∈ findings, ChainOrder.IsRed f ∧ f.code = code

def SameRedCodes (findings others : List ChainFinding) : Prop :=
  ∀ code, HasRed code findings ↔ HasRed code others

/-- No permutation of the chain or of the admitted classes changes the red codes. -/
structure OrderFree (rt : Runtime) (admission : ClaimClassAdmissionObject)
    (acceptedState : AcceptedClaimClassStateObject) (epoch : AcceptedEpochObject)
    (admissions : AdmissionsObject) (chainLock : ChainLockObject) : Prop where
  claim_classes : ∀ classes chain, classes.Perm admission.admitted_claim_classes →
    chain.Perm chainLock.chain →
    SameRedCodes
      (assertClaimClassAdmissionRequired { admission with admitted_claim_classes := classes }
        acceptedState { chainLock with chain })
      (assertClaimClassAdmissionRequired admission acceptedState chainLock)
  accepted_epoch : ∀ chain, chain.Perm chainLock.chain →
    SameRedCodes (assertAcceptedEpochRequired rt epoch { chainLock with chain } admissions)
      (assertAcceptedEpochRequired rt epoch chainLock admissions)

/-- Where entries of different classes share a number, none of their arrangements is the list
of classes they are compared with. -/
def TiesSettled {α : Type} (number : α → Number) (claim_class : α → String) (items : List α)
    (accepted : List String) : Prop :=
  Ambiguous number claim_class items → ∀ arranged, Arranges number items arranged →
    arranged.map claim_class ≠ accepted

/-- The three comparisons of the two gates. -/
structure ComparisonsSettled (admission : ClaimClassAdmissionObject)
    (acceptedState : AcceptedClaimClassStateObject) (epoch : AcceptedEpochObject)
    (chainLock : ChainLockObject) : Prop where
  law : TiesSettled AdmittedClaimClass.order AdmittedClaimClass.claim_class
    admission.admitted_claim_classes acceptedState.accepted_claim_classes
  state : TiesSettled ChainLockStage.stage ChainLockStage.claim_class chainLock.chain
    acceptedState.accepted_claim_classes
  epoch : TiesSettled ChainLockStage.stage ChainLockStage.claim_class chainLock.chain
    epoch.accepted_claim_classes

/-! ## Red codes of a list of findings -/

theorem hasRed_append (code : String) (a b : List ChainFinding) :
    HasRed code (a ++ b) ↔ HasRed code a ∨ HasRed code b := exists_mem_append

theorem hasRed_redWhen (code : String) (failed : Bool) (other message : String) :
    HasRed code (redWhen failed other message) ↔ failed = true ∧ other = code := by
  refine (exists_mem_pushIf failed _).trans (and_congr_right (fun _ => ?_))
  simp [ChainOrder.IsRed]

theorem hasRed_flatMap {α : Type} (code : String) (items : List α) (f : α → List ChainFinding) :
    HasRed code (items.flatMap f) ↔ ∃ item ∈ items, HasRed code (f item) := exists_mem_flatMap

/-- A class that is not required is a yellow finding. -/
theorem not_hasRed_notRequired (code : String) (classes : List AdmittedClaimClass) :
    ¬ HasRed code (classes.flatMap (fun cls =>
      pushIf (!cls.required) { severity := .yellow, code := "CLAIM_CLASS_NOT_REQUIRED"
                               message := cls.claim_class ++ " is admitted but not required." })) := by
  rw [hasRed_flatMap]
  rintro ⟨cls, _, hhas⟩
  obtain ⟨_, hred, _⟩ := (exists_mem_pushIf _ _).mp hhas
  cases hred

/-! ## What a permutation can change -/

section Gates
variable {rt : Runtime} {admission : ClaimClassAdmissionObject}
  {acceptedState : AcceptedClaimClassStateObject} {epoch : AcceptedEpochObject}
  {admissions : AdmissionsObject} {chainLock : ChainLockObject}

/-- Of the first gate only the two comparisons look at the lists. -/
theorem sameRedCodes_claimClassAdmission (classes : List AdmittedClaimClass)
    (chain : List ChainLockStage) :
    SameRedCodes
      (assertClaimClassAdmissionRequired { admission with admitted_claim_classes := classes }
        acceptedState { chainLock with chain })
      (assertClaimClassAdmissionRequired admission acceptedState chainLock) ↔
    (orderedLawClasses { admission with admitted_claim_classes := classes } =
        acceptedState.accepted_claim_classes ↔
      orderedLawClasses admission = acceptedState.accepted_claim_classes) ∧
    (orderedChainClasses { chainLock with chain } = acceptedState.accepted_claim_classes ↔
      orderedChainClasses chainLock = acceptedState.accepted_claim_classes) := by
  simp only [SameRedCodes, assertClaimClassAdmissionRequired, chainLockFindings, hasRed_append,
    hasRed_redWhen, not_hasRed_notRequired, or_false, Bool.not_eq_true', ← Bool.not_eq_true,
    sameOrder_iff, eq_comm (a := acceptedState.accepted_claim_classes)]
  constructor
  · intro h
    have hlaw := h "CLAIM_CLASS_LAW_STATE_MISMATCH"
    have hchain := h "ACCEPTED_CLAIM_CLASS_CHAINLOCK_MISMATCH"
    simp at hlaw hchain
    exact ⟨not_iff_not.mp hlaw, not_iff_not.mp hchain⟩
  · intro h code
    rw [h.1, h.2]

theorem count_code_ne (text : String) :
    "ACCEPTED_EPOCH_COUNT_MISMATCH_" ++ text ≠ "ACCEPTED_EPOCH_CHAIN_CLASS_MISMATCH" := by
  intro h
  have htake := congrArg (fun t => t.toList.take 17) h
  rw [String.toList_append, List.take_append_of_le_length (by decide)] at htake
  revert htake
  decide

/-- Of the second gate only one comparison looks at the order of the chain. -/
theorem sameRedCodes_acceptedEpoch {chain : List ChainLockStage}
    (hlength : chain.length = chainLock.chain.length) :
    SameRedCodes (assertAcceptedEpochRequired rt epoch { chainLock with chain } admissions)
      (assertAcceptedEpochRequired rt epoch chainLock admissions) ↔
    (orderedChainClasses { chainLock with chain } = epoch.accepted_claim_classes ↔
      orderedChainClasses chainLock = epoch.accepted_claim_classes) := by
  have hordered : (orderedChainClasses { chainLock with chain }).length =
      (orderedChainClasses chainLock).length := by
    simp only [orderedChainClasses, sortByKey, List.length_map, List.length_insertionSort, hlength]
  simp only [SameRedCodes, assertAcceptedEpochRequired, chainLockFindings, countMismatch,
    hasRed_append, hasRed_redWhen, hasRed_flatMap, hordered, Bool.not_eq_true', ← Bool.not_eq_true,
    sameOrder_iff, eq_comm (a := epoch.accepted_claim_classes)]
  constructor
  · intro h
    have hchain := h "ACCEPTED_EPOCH_CHAIN_CLASS_MISMATCH"
    simp [count_code_ne] at hchain
    exact not_iff_not.mp hchain
  · intro h code
    rw [h]

/-- Permutations that change nothing leave no tie that decides a comparison. -/
theorem settled_of_orderFree
    (h : OrderFree rt admission acceptedState epoch admissions chainLock) :
    ComparisonsSettled admission acceptedState epoch chainLock := by
  constructor
  · refine (map_sortByKey_eq_iff _ _ _ _).mp (fun classes hperm => ?_)
    have hred := h.claim_classes classes _ hperm (.refl _)
    exact ((sameRedCodes_claimClassAdmission _ _).mp hred).1
  · refine (map_sortByKey_eq_iff _ _ _ _).mp (fun chain hperm => ?_)
    have hred := h.claim_classes _ chain (.refl _) hperm
    exact ((sameRedCodes_claimClassAdmission _ _).mp hred).2
  · refine (map_sortByKey_eq_iff _ _ _ _).mp (fun chain hperm => ?_)
    exact (sameRedCodes_acceptedEpoch hperm.length_eq).mp (h.accepted_epoch chain hperm)

theorem orderFree_of_settled (h : ComparisonsSettled admission acceptedState epoch chainLock) :
    OrderFree rt admission acceptedState epoch admissions chainLock where
  claim_classes classes chain hclasses hchain := by
    rw [sameRedCodes_claimClassAdmission]
    exact ⟨(map_sortByKey_eq_iff _ _ _ _).mpr h.law classes hclasses,
      (map_sortByKey_eq_iff _ _ _ _).mpr h.state chain hchain⟩
  accepted_epoch chain hchain := by
    rw [sameRedCodes_acceptedEpoch hchain.length_eq]
    exact (map_sortByKey_eq_iff _ _ _ _).mpr h.epoch chain hchain

/-- The verdicts depend on no storage order exactly when no tie decides a comparison. -/
theorem orderFree_iff (rt : Runtime) (admission : ClaimClassAdmissionObject)
    (acceptedState : AcceptedClaimClassStateObject) (epoch : AcceptedEpochObject)
    (admissions : AdmissionsObject) (chainLock : ChainLockObject) :
    OrderFree rt admission acceptedState epoch admissions chainLock ↔
      ComparisonsSettled admission acceptedState epoch chainLock :=
  ⟨settled_of_orderFree, orderFree_of_settled⟩

/-- Where every class has its own number, the order of storage makes no difference. -/
theorem orderFree_of_numbers
    (horder : ¬ Ambiguous AdmittedClaimClass.order AdmittedClaimClass.claim_class
      admission.admitted_claim_classes)
    (hstage : ¬ Ambiguous ChainLockStage.stage ChainLockStage.claim_class chainLock.chain) :
    OrderFree rt admission acceptedState epoch admissions chainLock :=
  orderFree_of_settled ⟨fun h => absurd h horder, fun h => absurd h hstage, fun h => absurd h hstage⟩

end Gates

/-! ## A chain with a tie -/

def tiedStage (claim_class : String) : ChainLockStage :=
  ⟨1, claim_class, "VERIFRAX", "https://github.com/Verifrax/" ++ claim_class, "ACTIVE_TRUTH"⟩

/-- Two classes at one stage, in the order the accepted state lists them. -/
def tiedChain : ChainLockObject :=
  { currentChain with chain := [tiedStage "law-version", tiedStage "freeze-object"] }

def tiedAdmission : ClaimClassAdmissionObject :=
  { currentAdmission with
    admitted_claim_classes := [⟨1, "law-version", "VERIFRAX", true⟩, ⟨2, "freeze-object", "VERIFRAX", true⟩] }

def tiedState : AcceptedClaimClassStateObject :=
  { currentState with accepted_claim_classes := ["law-version", "freeze-object"] }

/-- As stored the first gate has nothing red to say; stored the other way round it does. -/
theorem tied_not_orderFree :
    Free ChainOrder.IsRed (assertClaimClassAdmissionRequired tiedAdmission tiedState tiedChain) ∧
      ¬ OrderFree .ascii tiedAdmission tiedState currentEpoch currentAdmissions tiedChain := by
  refine ⟨by decide +kernel, ?_⟩
  intro h
  have hswapped := h.claim_classes tiedAdmission.admitted_claim_classes
    [tiedStage "freeze-object", tiedStage "law-version"] (.refl _) (.swap _ _ _)
  have hstate := ((sameRedCodes_claimClassAdmission _ _).mp hswapped).2.mpr (by decide +kernel)
  revert hstate
  decide +kernel

end Admissorium.Gates.StorageOrder
