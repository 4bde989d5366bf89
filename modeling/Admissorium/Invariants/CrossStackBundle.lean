import Admissorium.Findings
import Admissorium.JavaScript.OwnEntries
import Admissorium.Reports

/-!
# Flags of the cross-stack bundle

`crossStackBundleTruthInvariant` reports a flag that is true while its check is false. A flag
that is true without any check says as little, and is not reported (`flagsHonest_iff`).
-/
namespace Admissorium.Invariants.CrossStackBundle
set_option autoImplicit false

open JavaScript Reports Findings

def expectedText (key : String) : String :=
  key ++ " may be true only when underlying check is true"

def falseMatchFinding (key : String) : Finding where
  finding_id := "RED-CROSS-STACK-FALSE-MATCH"
  severity := .red
  repo := "Verifrax/VERIFRAX"
  surface := "evidence/chain/current/cross-stack-chain-bundle-0001.json"
  invariant := "cross_stack_bundle_honesty"
  expected := .str (expectedText key)
  observed := .obj [("bundle_flag", .bool true), ("underlying_check", .bool false)]
  source_of_truth := "underlying byte/digest/object checks"
  autofix_allowed := false
  recommended_action :=
    "Set match false or repair underlying object chain through governed review."

/-- One turn of the loop. What a key finds on `Object.prototype` is not `false`. -/
def flagFindings (underlying : Record Bool) (entry : String × Bool) : List Finding :=
  pushIf (entry.2 && underlying.member entry.1 = .own false) (falseMatchFinding entry.1)

def crossStackBundleTruthInvariant (flags : OwnEntries Bool) (underlying : Record Bool) :
    List Finding :=
  flags.items.flatMap (flagFindings underlying)

/-! ## What honest flags are -/

/-- The flag is true, and no check that is there and true stands behind it. -/
def Dishonest (flags : OwnEntries Bool) (underlying : Record Bool) (key : String) : Prop :=
  flags.get key = some true ∧ underlying key ≠ some true

instance (flags : OwnEntries Bool) (underlying : Record Bool) (key : String) :
    Decidable (Dishonest flags underlying key) := inferInstanceAs (Decidable (_ ∧ _))

def isAbout (key : String) (finding : Finding) : Bool :=
  finding.expected.strictEquals (.str (expectedText key))

/-- No finding exactly when no key is dishonest, and one finding for each key that is. -/
structure FlagsHonest (flags : OwnEntries Bool) (underlying : Record Bool) : Prop where
  silent_iff : crossStackBundleTruthInvariant flags underlying = [] ↔
    ∀ key, flags.get key = some true → underlying key = some true
  reported : ∀ key, ((crossStackBundleTruthInvariant flags underlying).filter (isAbout key)).length =
    if Dishonest flags underlying key then 1 else 0

/-- Every true flag has a check under its own key. -/
def ChecksPresent (flags : OwnEntries Bool) (underlying : Record Bool) : Prop :=
  ∀ key, flags.get key = some true → (underlying key).isSome = true

/-! ## The loop, key by key -/

variable {flags : OwnEntries Bool} {underlying : Record Bool}

theorem isAbout_falseMatchFinding (key other : String) :
    isAbout key (falseMatchFinding other) = true ↔ other = key := by
  have hbounds : ∀ a b : String, expectedText a = expectedText b → a = b := by
    intro a b hab
    exact String.append_left_inj _ |>.mp hab
  rw [isAbout, falseMatchFinding, Value.strictEquals_str, Value.str.injEq]
  exact ⟨hbounds other key, fun h => h ▸ rfl⟩

/-- A key is reported when its flag is true and its check is there and false. -/
theorem length_filter_isAbout (flags : OwnEntries Bool) (underlying : Record Bool) (key : String) :
    ((crossStackBundleTruthInvariant flags underlying).filter (isAbout key)).length =
      if flags.get key = some true ∧ underlying key = some false then 1 else 0 := by
  have hother : ∀ (entry : String × Bool) key, entry.1 ≠ key →
      (flagFindings underlying entry).filter (isAbout key) = [] := by
    intro entry key hne
    rw [List.filter_eq_nil_iff]
    intro f hf habout
    rw [flagFindings, pushIf] at hf
    split at hf
    · rw [List.mem_singleton.mp hf, isAbout_falseMatchFinding] at habout
      exact hne habout
    · cases hf
  rw [crossStackBundleTruthInvariant,
    OwnEntries.filter_flatMap_eq flags.distinct _ isAbout hother, OwnEntries.get]
  have habout := (isAbout_falseMatchFinding key key).mpr rfl
  cases flags.items.lookup key with
  | none => simp
  | some flag =>
      cases flag with
      | false => simp [flagFindings, pushIf]
      | true =>
          by_cases hfalse : underlying key = some false
          · simp [flagFindings, pushIf, Record.member_eq_own, hfalse, habout]
          · simp [flagFindings, pushIf, Record.member_eq_own, hfalse]

theorem eq_nil_iff (flags : OwnEntries Bool) (underlying : Record Bool) :
    crossStackBundleTruthInvariant flags underlying = [] ↔
      ∀ key, ¬ (flags.get key = some true ∧ underlying key = some false) := by
  rw [crossStackBundleTruthInvariant, List.flatMap_eq_nil_iff]
  constructor
  · intro h key hkey
    have hnil := h (key, true) ((flags.get_eq_some_iff key true).mp hkey.1)
    rw [flagFindings, decide_eq_true (Record.member_eq_own.mpr hkey.2)] at hnil
    cases hnil
  · intro h entry hentry
    obtain ⟨key, flag⟩ := entry
    rw [flagFindings, pushIf, if_neg]
    intro hfailed
    rw [Bool.and_eq_true, decide_eq_true_eq, Record.member_eq_own] at hfailed
    obtain ⟨rfl, hfalse⟩ := hfailed
    exact h key ⟨(flags.get_eq_some_iff key true).mpr hentry, hfalse⟩

/-- The flags are told honest from dishonest exactly when each true one has a check. -/
theorem flagsHonest_iff (flags : OwnEntries Bool) (underlying : Record Bool) :
    FlagsHonest flags underlying ↔ ChecksPresent flags underlying := by
  constructor
  · intro h key hflag
    by_contra hnone
    have hreported := h.reported key
    have hunderlying : underlying key = none := Option.not_isSome_iff_eq_none.mp hnone
    have hdishonest : Dishonest flags underlying key := ⟨hflag, by rw [hunderlying]; nofun⟩
    rw [length_filter_isAbout, if_pos hdishonest, if_neg] at hreported
    · cases hreported
    · rw [hunderlying]
      exact fun hfalse => nomatch hfalse.2
  · intro h
    -- with a check there, not true and false are the same
    have hcheck : ∀ key, (flags.get key = some true ∧ underlying key = some false) ↔
        Dishonest flags underlying key := by
      intro key
      refine and_congr_right (fun hflag => ?_)
      obtain ⟨check, hcheck⟩ := Option.isSome_iff_exists.mp (h key hflag)
      rw [hcheck]
      cases check <;> simp
    constructor
    · simp only [eq_nil_iff, hcheck, Dishonest, not_and, not_not]
    · intro key
      rw [length_filter_isAbout]
      simp only [hcheck]

/-- A flag that is true with no check at all. -/
def unchecked : OwnEntries Bool where
  items := [("bundle_digest_match", true)]
  distinct := List.nodup_singleton _

/-- Nothing is reported, though the flag is not honest. -/
theorem unchecked_not_honest :
    crossStackBundleTruthInvariant unchecked (Record.ofList []) = [] ∧
      ¬ FlagsHonest unchecked (Record.ofList []) := by
  refine ⟨by decide, ?_⟩
  intro h
  have hnone := h.silent_iff.mp (by decide) "bundle_digest_match" rfl
  cases hnone

end Admissorium.Invariants.CrossStackBundle
