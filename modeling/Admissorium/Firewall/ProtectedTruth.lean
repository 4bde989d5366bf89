import Admissorium.App.WriteDecision
import Admissorium.Policy.EmergencyStop

/-!
# The protected-truth firewall

The firewall matches changed paths against `protected-truth-paths.json` with its own
glob compiler, and blocks exactly the paths of the truth perimeter
(`shipped_blocks_iff`). The write decision protects the class perimeter. The two
share most families; a path of the others is blocked here and may be repaired there.
-/
namespace Admissorium.Firewall.ProtectedTruth
set_option autoImplicit false

open JavaScript RegExp GlobEngines Policies Perimeter App.Permissions App.WriteDecision

/-! ## The firewall -/

inductive FirewallVerdict where
  | protectedTruthFirewallPass
  | blockedProtectedTruthPath
  deriving DecidableEq, Repr

structure Match where
  path : Value
  pattern : String

structure FirewallEvaluation where
  verdict : FirewallVerdict
  protected_truth_touched : Bool
  automatic_projection_repair_allowed : Bool
  direct_write_allowed : Bool
  required_decision : Option String
  matched : List Match

/-- `globToRegExp(pattern).test(path)`; the path is read as text. -/
def patternMatches (rt : Runtime) (path : Value) (pattern : String) : Except JsError Bool := do
  let r ← Firewall.globToRegExp pattern
  return r.test (← path.toText rt)

/-- The inner loop: what one path matches. -/
def pathMatches (rt : Runtime) (path : Value) : List String → Except JsError (List Match)
  | [] => .ok []
  | pattern :: rest => do
      if ← patternMatches rt path pattern then
        return ⟨path, pattern⟩ :: (← pathMatches rt path rest)
      else pathMatches rt path rest

/-- The outer loop. -/
def collectMatches (rt : Runtime) (patterns : List String) :
    List Value → Except JsError (List Match)
  | [] => .ok []
  | path :: rest => do
      let matched ← pathMatches rt path patterns
      return matched ++ (← collectMatches rt patterns rest)

def evaluateProtectedTruthPaths (rt : Runtime) (changedPaths : List Value)
    (policy : ProtectedTruthPathsPolicy) : Except JsError FirewallEvaluation := do
  let protectedPatterns := policy.protected_paths.getD []
  let matched ← collectMatches rt protectedPatterns changedPaths
  if matched.isEmpty then
    return {
      verdict := .protectedTruthFirewallPass
      protected_truth_touched := false
      automatic_projection_repair_allowed := true
      direct_write_allowed := false
      required_decision := none
      matched }
  match policy.if_touched with
  | none => .error .typeError
  | some ifTouched =>
      return {
        verdict := .blockedProtectedTruthPath
        protected_truth_touched := true
        automatic_projection_repair_allowed := false
        direct_write_allowed := false
        required_decision := ifTouched.required_decision
        matched }

/-! ## What is matched -/

theorem pathMatches_ok {rt : Runtime} {path : Value} {patterns : List String}
    {matched : List Match} (h : pathMatches rt path patterns = .ok matched) :
    matched = [] ↔ ∀ pattern ∈ patterns, patternMatches rt path pattern = .ok false := by
  induction patterns generalizing matched with
  | nil =>
      cases h
      simp
  | cons pattern rest ih =>
      rw [pathMatches, bind_eq_ok] at h
      obtain ⟨b, hb, h⟩ := h
      rw [List.forall_mem_cons, hb]
      cases b with
      | true =>
          obtain ⟨ms, _, h⟩ := bind_eq_ok.mp h
          cases h
          simp
      | false =>
          rw [ih h]
          simp

theorem exists_pathMatches {rt : Runtime} {path : Value} {patterns : List String}
    (h : ∀ pattern ∈ patterns, ∃ b, patternMatches rt path pattern = .ok b) :
    ∃ matched, pathMatches rt path patterns = .ok matched := by
  induction patterns with
  | nil => exact ⟨[], rfl⟩
  | cons pattern rest ih =>
      rw [List.forall_mem_cons] at h
      obtain ⟨⟨b, hb⟩, hrest⟩ := h
      obtain ⟨ms, hms⟩ := ih hrest
      apply exists_bind_ok hb
      cases b with
      | true => exact exists_bind_ok hms ⟨_, rfl⟩
      | false => exact ⟨ms, hms⟩

theorem collectMatches_ok {rt : Runtime} {patterns : List String} {paths : List Value}
    {matched : List Match} (h : collectMatches rt patterns paths = .ok matched) :
    matched = [] ↔ ∀ path ∈ paths, ∀ pattern ∈ patterns,
      patternMatches rt path pattern = .ok false := by
  induction paths generalizing matched with
  | nil =>
      cases h
      simp
  | cons path rest ih =>
      rw [collectMatches, bind_eq_ok] at h
      obtain ⟨ms, hms, h⟩ := h
      obtain ⟨ns, hns, h⟩ := bind_eq_ok.mp h
      cases h
      rw [List.append_eq_nil_iff, pathMatches_ok hms, ih hns, List.forall_mem_cons]

theorem exists_collectMatches {rt : Runtime} {patterns : List String} {paths : List Value}
    (h : ∀ path ∈ paths, ∀ pattern ∈ patterns, ∃ b, patternMatches rt path pattern = .ok b) :
    ∃ matched, collectMatches rt patterns paths = .ok matched := by
  induction paths with
  | nil => exact ⟨[], rfl⟩
  | cons path rest ih =>
      rw [List.forall_mem_cons] at h
      obtain ⟨ms, hms⟩ := exists_pathMatches h.1
      obtain ⟨ns, hns⟩ := ih h.2
      exact exists_bind_ok hms (exists_bind_ok hns ⟨_, rfl⟩)

/-! ## The shipped policy -/

/-- The firewall blocks these paths under the shipped policy. -/
def Blocks (rt : Runtime) (paths : List Value) : Prop :=
  ∃ e, evaluateProtectedTruthPaths rt paths protectedTruthPathsFile = .ok e ∧
    e.verdict = .blockedProtectedTruthPath

theorem shipped_patternMatches {rt : Runtime} {path : Value} {text : String}
    (ht : path.toText rt = .ok text) {z : Zone} (hz : z ∈ truthPerimeter) (b : Bool) :
    patternMatches rt path z.pattern = .ok b ↔ (anchored z.matcher).test text = b := by
  have hstarless := shipped_starless (List.mem_append_left classPerimeter hz)
  rw [patternMatches, firewall_compiles hz, ht]
  change Except.ok _ = Except.ok b ↔ _
  rw [Except.ok.injEq, test_compiled_zone hstarless]

/-- Blocked means that something matched. -/
theorem blocks_iff (rt : Runtime) (paths : List Value) :
    Blocks rt paths ↔ ∃ matched,
      collectMatches rt (protectedTruthPathsFile.protected_paths.getD []) paths = .ok matched ∧
        matched ≠ [] := by
  have hrun : evaluateProtectedTruthPaths rt paths protectedTruthPathsFile =
      (collectMatches rt (protectedTruthPathsFile.protected_paths.getD []) paths >>= _) := rfl
  rw [Blocks, hrun]
  constructor
  · intro h
    obtain ⟨e, he, hv⟩ := h
    obtain ⟨matched, hm, he⟩ := bind_eq_ok.mp he
    refine ⟨matched, hm, ?_⟩
    rintro rfl
    cases he
    cases hv
  · intro h
    obtain ⟨matched, hm, hne⟩ := h
    rw [hm]
    cases matched with
    | nil => exact absurd rfl hne
    | cons m ms => exact ⟨_, rfl, rfl⟩

/-- Paths with a text are blocked exactly when one lies in the truth perimeter. -/
theorem shipped_blocks_iff (rt : Runtime) {paths : List Value}
    (h : ∀ path ∈ paths, ∃ text, path.toText rt = .ok text) :
    Blocks rt paths ↔ ∃ path ∈ paths, ∃ text, path.toText rt = .ok text ∧
      truthPerimeter.Covers text := by
  have hread : ∀ path ∈ paths, ∀ pattern ∈ protectedTruthPathsFile.protected_paths.getD [],
      ∃ b, patternMatches rt path pattern = .ok b := by
    intro path hp pattern hpat
    obtain ⟨text, ht⟩ := h path hp
    obtain ⟨z, hz, rfl⟩ := (mem_truth_patterns pattern).mp hpat
    exact ⟨_, (shipped_patternMatches ht hz _).mpr rfl⟩
  obtain ⟨matched, hm⟩ := exists_collectMatches hread
  have hnone : matched = [] ↔ ∀ path ∈ paths, ∀ text, path.toText rt = .ok text →
      ¬ truthPerimeter.Covers text := by
    rw [collectMatches_ok hm]
    constructor
    · rintro hall path hp text ht ⟨z, hz, hc⟩
      have hf := hall path hp z.pattern ((mem_truth_patterns _).mpr ⟨z, hz, rfl⟩)
      rw [shipped_patternMatches ht hz, (z.test_matcher text).mpr hc] at hf
      cases hf
    · intro hall path hp pattern hpat
      obtain ⟨text, ht⟩ := h path hp
      obtain ⟨z, hz, rfl⟩ := (mem_truth_patterns pattern).mp hpat
      rw [shipped_patternMatches ht hz, Bool.eq_false_iff]
      exact fun hc => hall path hp text ht ⟨z, hz, (z.test_matcher text).mp hc⟩
  rw [blocks_iff]
  constructor
  · intro hcase
    obtain ⟨matched', hm', hne⟩ := hcase
    rw [hm] at hm'
    cases hm'
    by_contra hcon
    simp only [not_exists, not_and] at hcon
    exact hne (hnone.mpr hcon)
  · intro hcase
    obtain ⟨path, hp, text, ht, hc⟩ := hcase
    exact ⟨matched, hm, fun he => hnone.mp he path hp text ht hc⟩

/-- A path in the truth perimeter is blocked, and no other. -/
theorem blocks_path_iff (rt : Runtime) (path : String) :
    Blocks rt [.str path] ↔ truthPerimeter.Covers path := by
  have hread : ∀ p ∈ [Value.str path], ∃ text, p.toText rt = .ok text := by
    intro p hp
    rw [List.mem_singleton.mp hp]
    exact ⟨path, by rw [Value.toText]⟩
  rw [shipped_blocks_iff rt hread]
  simp [Value.toText]

/-! ## The write decision on a blocked path -/

section Repairs

variable (rt : Runtime) (host : Host) (base : DecideWriteInput)
  (paths : List String)

/-- A repair branch asked for with the policies as loaded; the fields that these take
precedence over are arbitrary. -/
def branchRequest : DecideWriteInput :=
  { base with
    mode := some "repair-projection"
    writeClass := some "PROJECTION_REPAIR_BRANCH"
    changedPaths := some paths
    permissionPolicy := some (loadPermissionPolicy host).asPolicy
    protectedPathsPolicy := some (loadProtectedPathsPolicy host).asPolicy }

def NeverAllowed : Prop :=
  ∀ d, decideWrite rt host (branchRequest host base paths) = .ok d →
    d.decision ≠ .allow

theorem branch_class : (branchRequest host base paths).normalizedWriteClass rt =
    "PROJECTION_REPAIR_BRANCH" := by
  have hupper : rt.toUpperCase "PROJECTION_REPAIR_BRANCH" = "PROJECTION_REPAIR_BRANCH" :=
    rt.toUpperCase_fixed (by decide) (by decide)
  exact hupper

theorem branch_mode : (branchRequest host base paths).normalizedMode = "projection_repair" := by
  have hmode : DecideWriteInput.normalizedMode { mode := some "repair-projection" } =
      "projection_repair" := by decide +kernel
  exact hmode

theorem branch_permissionPolicy : (branchRequest host base paths).normalizedPermissionPolicy host =
    loadPermissionPolicy host :=
  withPermissionDefaults_asPolicy _

theorem branch_protectedPolicy (h : host.policies = shipped) :
    (branchRequest host base paths).normalizedProtectedPolicy host = shippedProtection := by
  have hload : loadProtectedPathsPolicy host = shippedProtection := by
    rw [loadProtectedPathsPolicy, h]
    rfl
  have hsame : (branchRequest host base paths).normalizedProtectedPolicy host =
      withProtectedPathDefaults (loadProtectedPathsPolicy host).asPolicy := rfl
  rw [hsame, hload]
  exact withProtectedPathDefaults_asPolicy protectedPathsFile

/-- The stop is the canonical variable of the environment in force. -/
theorem branch_emergency (h : host.policies = shipped) :
    (branchRequest host base paths).emergency host = true ↔
      (base.effectiveEnv host) "ADMISSORIUM_WRITE_DISABLED" = some "true" := by
  rw [DecideWriteInput.emergency, branch_permissionPolicy,
    Policy.EmergencyStop.isWriteDisabled_iff, Policy.EmergencyStop.shipped_stopVariable h]
  exact Iff.rfl

/-- The branch is allowed exactly when nothing stops it and every path is outside the
class perimeter. -/
theorem branch_allowed_iff (h : host.policies = shipped) :
    (∃ d, decideWrite rt host (branchRequest host base paths) = .ok d ∧ d.decision = .allow) ↔
      (base.effectiveEnv host) "ADMISSORIUM_WRITE_DISABLED" ≠ some "true" ∧
        ∀ q ∈ paths, ¬ classPerimeter.Covers q := by
  have hspared : PathsSpared host (branchRequest host base paths) ↔
      ∀ q ∈ paths, ¬ classPerimeter.Covers q := by
    rw [PathsSpared, branch_protectedPolicy host base paths h]
    simp only [shipped_spares_iff]
    exact Iff.rfl
  have hclass : Text.includes ((branchRequest host base paths).normalizedWriteClass rt)
      "PROJECTION_REPAIR" = true := by
    rw [branch_class]
    decide +kernel
  rw [allow_iff, ← hspared, ← Bool.not_eq_true, branch_emergency host base paths h,
    grant_repair_iff host hclass, branch_mode]
  apply and_congr_right
  intro _
  constructor
  · exact fun hg => hg.2.2
  · exact fun hp => ⟨by decide, Or.inr rfl, hp⟩

/-- For a path the firewall blocks, the write decision blocks it too unless the path lies
below `freeze/`, `freezes/` or `current/`, which `protected-paths.json` leaves out. -/
theorem neverAllowed_iff (h : host.policies = shipped) {p : String}
    (hp : p ∈ paths) (hb : Blocks rt [.str p]) :
    NeverAllowed rt host base paths ↔
      (base.effectiveEnv host) "ADMISSORIUM_WRITE_DISABLED" = some "true" ∨
        ¬ truthOnlyZones.Covers p ∨ ∃ q ∈ paths, classPerimeter.Covers q := by
  have hallowed := branch_allowed_iff rt host base paths h
  constructor
  · intro hnever
    by_contra hcon
    rw [not_or, not_or] at hcon
    obtain ⟨hrun, _, hnone⟩ := hcon
    obtain ⟨d, hd, ha⟩ := hallowed.mpr ⟨hrun, fun q hq hc => hnone ⟨q, hq, hc⟩⟩
    exact hnever d hd ha
  · intro hcond d hd ha
    obtain ⟨hrun, hnone⟩ := hallowed.mp ⟨d, hd, ha⟩
    rcases hcond with hstop | hshared | ⟨q, hq, hc⟩
    · exact hrun hstop
    · rw [blocks_path_iff, truthPerimeter, covers_append] at hb
      rcases hb with hcommon | htruth
      · apply hnone p hp
        rw [classPerimeter, covers_append]
        exact Or.inl hcommon
      · exact hshared htruth
    · exact hnone q hq hc

end Repairs

theorem neverAllowed_iff_law :
    NeverAllowed .ascii shippedHost {} ["law/v1.json"] ↔
      (DecideWriteInput.effectiveEnv shippedHost {}) "ADMISSORIUM_WRITE_DISABLED" = some "true" ∨
        ¬ truthOnlyZones.Covers "law/v1.json" ∨
        ∃ q ∈ ["law/v1.json"], classPerimeter.Covers q :=
  neverAllowed_iff .ascii shippedHost {} ["law/v1.json"] rfl (by simp)
    ((blocks_path_iff _ _).mpr (by decide +kernel))

/-- A freeze object is blocked by the firewall and open to a repair branch. -/
theorem freeze_object_allowed :
    Blocks .ascii [.str "freeze/v1.json"] ∧
      ¬ NeverAllowed .ascii shippedHost {} ["freeze/v1.json"] := by
  refine ⟨(blocks_path_iff _ _).mpr (by decide +kernel), ?_⟩
  intro hnever
  obtain ⟨d, hd, ha⟩ := (branch_allowed_iff .ascii shippedHost {} ["freeze/v1.json"] rfl).mpr
    ⟨by decide, by decide +kernel⟩
  exact hnever d hd ha

end Admissorium.Firewall.ProtectedTruth
