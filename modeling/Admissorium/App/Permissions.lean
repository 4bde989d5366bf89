import Admissorium.GlobEngines

/-!
# `app/permissions`

The write decision of the actuator. Policies come in several legacy shapes and are
completed by defaults first; a completed policy has every field, which its type
says. `decideWrite` completes what it is given, and the two functions it calls
complete it again: completion is idempotent (`withPermissionDefaults_asPolicy`,
`withProtectedPathDefaults_asPolicy`), so the second pass changes nothing.
-/
namespace Admissorium.App.Permissions
set_option autoImplicit false

open JavaScript RegExp GlobEngines Policies

/-! ## Completed policies -/

structure Environment where
  write_disabled_variable : String
  deriving DecidableEq, Repr

structure NormalizedPermissionPolicy where
  environment : Environment
  emergency_stop : Environment
  forbidden_first_app : List String
  modes : Record ModePolicy

structure ProtectedPathClass where
  id : ClassId
  class_ : ClassId
  paths : List String
  deriving DecidableEq, Repr

structure NormalizedIfTouched where
  automatic_projection_repair_allowed : Bool
  direct_write_allowed : Bool
  required_decision : String
  deriving DecidableEq, Repr

structure NormalizedProtectedPathsPolicy where
  policy_type : String
  schema_version : String
  protected_classes : List ProtectedPathClass
  protectedClasses : List ProtectedPathClass
  if_touched : NormalizedIfTouched
  deriving DecidableEq, Repr

/-- A completed policy is passed on as a policy. -/
def NormalizedPermissionPolicy.asPolicy (policy : NormalizedPermissionPolicy) :
    PermissionPolicy where
  environment := some ⟨some policy.environment.write_disabled_variable⟩
  emergency_stop := some ⟨some policy.emergency_stop.write_disabled_variable⟩
  forbidden_first_app := some policy.forbidden_first_app
  modes := some policy.modes

def ProtectedPathClass.asEntry (entry : ProtectedPathClass) : ProtectedClassEntry where
  id := entry.id
  class_ := entry.class_
  paths := some entry.paths

def NormalizedProtectedPathsPolicy.asPolicy (policy : NormalizedProtectedPathsPolicy) :
    ProtectedPathsPolicy where
  policy_type := some policy.policy_type
  schema_version := some policy.schema_version
  protected_classes := some (policy.protected_classes.map ProtectedPathClass.asEntry)
  protectedClasses := some (policy.protectedClasses.map ProtectedPathClass.asEntry)
  if_touched := some ⟨some policy.if_touched.automatic_projection_repair_allowed,
    some policy.if_touched.direct_write_allowed, some policy.if_touched.required_decision⟩

/-! ## Defaults -/

def defaultPermissionPolicy : NormalizedPermissionPolicy where
  environment := ⟨"ADMISSORIUM_WRITE_DISABLED"⟩
  emergency_stop := ⟨"ADMISSORIUM_WRITE_DISABLED"⟩
  forbidden_first_app := ["administration:write", "contents:write", "secrets:write",
    "variables:write", "environments:write", "deployments:write", "packages:write",
    "members:write"]
  modes := Record.ofList
    [("audit", modePolicy true false false false false),
      ("block", modePolicy true true false false false),
      ("projection_repair", modePolicy true true true false false),
      ("quarantine", modePolicy true true false true false)]

def defaultProtectedClasses : List ProtectedClassEntry :=
  [protectedClass "constitutional-law" ["law/**", "laws/**"],
    protectedClass "freeze" ["freeze/**", "freezes/**"],
    protectedClass "accepted-state" ["current/**", "epochs/current/**", "state/current/**"],
    protectedClass "authority" ["authorities/current/**"],
    protectedClass "execution-receipts" ["receipts/current/**"],
    protectedClass "verification" ["verification/results/current/**"],
    protectedClass "recognition" ["recognitions/current/**"],
    protectedClass "recourse" ["recourse/current/**", "recourses/current/**"],
    protectedClass "claims" ["claims/current/**"],
    protectedClass "continuity" ["continuity/current/**", "transfer/current/**"],
    protectedClass "release-identity" ["LICENSE", "package.json", ".github/workflows/*release*"],
    protectedClass "governance-registries"
      [".github/GOVERNED_REPOS.txt", ".github/LICENSES.json", ".github/PACKAGES.json",
        ".github/REPO_CLASSES.json"]]

def defaultIfTouched : NormalizedIfTouched where
  automatic_projection_repair_allowed := false
  direct_write_allowed := false
  required_decision := "GOVERNANCE_REVIEW_REQUIRED_OR_BLOCKED"

def Environment.spread (base : Environment) (overrides : EnvironmentSwitch) : Environment :=
  ⟨overrides.write_disabled_variable.getD base.write_disabled_variable⟩

def NormalizedIfTouched.spread (base : NormalizedIfTouched) (overrides : IfTouched) :
    NormalizedIfTouched where
  automatic_projection_repair_allowed :=
    overrides.automatic_projection_repair_allowed.getD base.automatic_projection_repair_allowed
  direct_write_allowed := overrides.direct_write_allowed.getD base.direct_write_allowed
  required_decision := overrides.required_decision.getD base.required_decision

def withPermissionDefaults (policy : PermissionPolicy) : NormalizedPermissionPolicy :=
  let environment :=
    (defaultPermissionPolicy.environment.spread (policy.environment.getD ⟨none⟩)).spread
      (policy.emergency_stop.getD ⟨none⟩)
  { environment
    emergency_stop := environment
    forbidden_first_app :=
      policy.forbidden_first_app.getD defaultPermissionPolicy.forbidden_first_app
    modes := defaultPermissionPolicy.modes.spread (policy.modes.getD (fun _ => none)) }

/-! ## Protected classes -/

def idMap : Record String := Record.ofList
  [("verification", "verification-results"), ("recognition", "terminal-recognition"),
    ("recourse", "terminal-recourse"), ("continuity", "continuity-transfer")]

/-- `idMap[rawId] || rawId`; what `Object.prototype` defines is no text. -/
def mapId (rawId : ClassId) : ClassId :=
  match rawId with
  | .text s =>
      match idMap.member s with
      | .own id => ClassId.or (.text id) rawId
      | .inherited => .builtin s
      | .absent => rawId
  | _ => rawId

def normalizeProtectedClass (entry : ProtectedClassEntry) : ProtectedPathClass :=
  let rawId := ClassId.or entry.id entry.class_
  let id := mapId rawId
  { id
    class_ := ClassId.or entry.class_ id
    paths := (((entry.paths.or entry.path_patterns).or entry.patterns).or entry.globs).getD [] }

def withProtectedPathDefaults (policy : ProtectedPathsPolicy) : NormalizedProtectedPathsPolicy :=
  let classes := (((policy.protected_classes.or policy.protectedClasses).or policy.classes).getD
    defaultProtectedClasses).map normalizeProtectedClass
  { policy_type := textOr policy.policy_type "ADMISSORIUM_PROTECTED_TRUTH_PATHS"
    schema_version := textOr policy.schema_version "1.0.0"
    protected_classes := classes
    protectedClasses := classes
    if_touched := defaultIfTouched.spread (policy.if_touched.getD {}) }

def loadPermissionPolicy (host : Host) : NormalizedPermissionPolicy :=
  withPermissionDefaults (host.policies.permissionPolicy.getD {})

def loadProtectedPathsPolicy (host : Host) : NormalizedProtectedPathsPolicy :=
  withProtectedPathDefaults (host.policies.protectedPaths.getD {})

/-- Completing a completed permission policy changes nothing. -/
theorem withPermissionDefaults_asPolicy (policy : PermissionPolicy) :
    withPermissionDefaults (withPermissionDefaults policy).asPolicy =
      withPermissionDefaults policy := by
  have hmodes : ∀ base overrides : Record ModePolicy,
      base.spread (base.spread overrides) = base.spread overrides := by
    intro base overrides
    funext key
    cases ho : overrides key <;> cases hb : base key <;> simp [Record.spread, ho, hb]
  simp only [withPermissionDefaults, NormalizedPermissionPolicy.asPolicy, Option.getD_some,
    Environment.spread, hmodes]

/-- An id the map knows becomes a text that is nonempty and that the map does not know. -/
theorem mapId_own {s id : String} (h : idMap.member s = .own id) :
    mapId (.text s) = .text id ∧ mapId (.text id) = .text id ∧ s ≠ "" ∧ id ≠ "" := by
  have hvalues : ∀ p ∈ [("verification", "verification-results"),
      ("recognition", "terminal-recognition"), ("recourse", "terminal-recourse"),
      ("continuity", "continuity-transfer")],
      mapId (.text p.1) = .text p.2 ∧ mapId (.text p.2) = .text p.2 ∧ p.1 ≠ "" ∧ p.2 ≠ "" := by
    decide
  exact hvalues _ (Record.mem_of_ofList (Record.member_eq_own.mp h))

theorem mapId_idempotent (rawId : ClassId) : mapId (mapId rawId) = mapId rawId := by
  cases rawId with
  | undefined => rfl
  | builtin name => rfl
  | text s =>
      cases hm : idMap.member s with
      | own id =>
          obtain ⟨himage, hfixed, _⟩ := mapId_own hm
          rw [himage, hfixed]
      | inherited => simp only [mapId, hm]
      | absent => simp only [mapId, hm]

theorem truthy_mapId (rawId : ClassId) : (mapId rawId).truthy = rawId.truthy := by
  cases rawId with
  | undefined => rfl
  | builtin name => rfl
  | text s =>
      cases hm : idMap.member s with
      | own id =>
          obtain ⟨himage, _, hs, hid⟩ := mapId_own hm
          simp [himage, ClassId.truthy, hs, hid]
      | inherited =>
          have hs : s ≠ "" := by
            rintro rfl
            revert hm
            decide
          simp [mapId, hm, ClassId.truthy, hs]
      | absent => simp only [mapId, hm]

theorem mapId_of_falsy {rawId : ClassId} (h : rawId.truthy = false) : mapId rawId = rawId := by
  cases rawId with
  | undefined => rfl
  | builtin name => cases h
  | text s =>
      have hs : s = "" := by simpa [ClassId.truthy] using h
      subst hs
      decide

theorem normalizeProtectedClass_asEntry (entry : ProtectedClassEntry) :
    normalizeProtectedClass (normalizeProtectedClass entry).asEntry =
      normalizeProtectedClass entry := by
  have hclass : ∀ a b : ClassId, ClassId.or (ClassId.or a b) b = ClassId.or a b := by
    intro a b
    cases ha : a.truthy <;> simp [ClassId.or, ha]
  -- The id comes back first unless both names are falsy, and then nothing is mapped.
  have hid : ∀ a b : ClassId, mapId (ClassId.or (mapId (ClassId.or a b))
      (ClassId.or b (mapId (ClassId.or a b)))) = mapId (ClassId.or a b) := by
    intro a b
    cases hr : (ClassId.or a b).truthy with
    | true =>
        have ht := (truthy_mapId (ClassId.or a b)).trans hr
        rw [ClassId.or, if_pos ht, mapId_idempotent]
    | false =>
        have hab : a.truthy = false ∧ b.truthy = false := by
          cases ha : a.truthy with
          | true => simp [ClassId.or, ha] at hr
          | false => exact ⟨rfl, by simpa [ClassId.or, ha] using hr⟩
        have hraw : ClassId.or a b = b := if_neg (by simp [hab.1])
        have hsame : ClassId.or b b = b := ite_self b
        rw [hraw, mapId_of_falsy hab.2, hsame, hsame, mapId_of_falsy hab.2]
  simp only [normalizeProtectedClass, ProtectedPathClass.asEntry, hclass, hid]
  rfl

/-- So does completing a completed protection policy. -/
theorem withProtectedPathDefaults_asPolicy (policy : ProtectedPathsPolicy) :
    withProtectedPathDefaults (withProtectedPathDefaults policy).asPolicy =
      withProtectedPathDefaults policy := by
  have htext : ∀ (a : Option String) (default : String),
      textOr (some (textOr a default)) default = textOr a default := by
    intro a default
    unfold textOr orElseText
    cases a with
    | none => by_cases h : default = "" <;> simp [h]
    | some s => by_cases h : s = "" <;> by_cases hd : default = "" <;> simp [h, hd]
  have hclasses : ∀ entries : List ProtectedClassEntry,
      ((entries.map normalizeProtectedClass).map ProtectedPathClass.asEntry).map
        normalizeProtectedClass = entries.map normalizeProtectedClass := by
    intro entries
    simp [normalizeProtectedClass_asEntry]
  simp only [withProtectedPathDefaults, NormalizedProtectedPathsPolicy.asPolicy, htext,
    Option.some_or, Option.getD_some, hclasses, NormalizedIfTouched.spread]

/-! ## Protected paths -/

inductive PathVerdict where
  | allowProjectionRepair
  | denyAutomaticMutation
  | requiresGovernanceReview
  deriving DecidableEq, Repr

/-- `matchedProtectedClass` is `null` when no class matched. -/
structure PathDecision where
  protectedPathTouched : Bool
  protected_path_touched : Bool
  matchedProtectedClass : Option ClassId
  matched_protected_class : Option ClassId
  decision : PathVerdict
  deriving DecidableEq, Repr

/-- Does one of the globs match? Every glob up to the first that does is compiled. -/
def someGlobMatches (paths : List String) (candidatePath : String) : Except JsError Bool :=
  paths.anyM (fun glob => do return (← Permissions.globToRegExp glob).test candidatePath)

def protectedPathClassFor (candidatePath : String) (policy : ProtectedPathsPolicy) :
    Except JsError (Option ProtectedPathClass) :=
  let normalized := withProtectedPathDefaults policy
  normalized.protected_classes.findM? (fun entry => someGlobMatches entry.paths candidatePath)

def untouched : PathDecision where
  protectedPathTouched := false
  protected_path_touched := false
  matchedProtectedClass := none
  matched_protected_class := none
  decision := .allowProjectionRepair

def touched (matched : ProtectedPathClass) : PathDecision :=
  let isGovernance := matched.id = .text "governance-registries"
  { protectedPathTouched := true
    protected_path_touched := true
    matchedProtectedClass := some matched.id
    matched_protected_class := some matched.id
    decision := if isGovernance then .requiresGovernanceReview else .denyAutomaticMutation }

/-- A single path is passed as a list of one. -/
def protectedPathDecision (changedPaths : List String) (policy : ProtectedPathsPolicy) :
    Except JsError PathDecision := do
  let found ← changedPaths.findSomeM? (fun changedPath => protectedPathClassFor changedPath policy)
  match found with
  | some matched => return touched matched
  | none => return untouched

/-- Some class of the policy has a glob that compiles and matches. -/
def Protects (policy : NormalizedProtectedPathsPolicy) (path : String) : Prop :=
  ∃ entry ∈ policy.protected_classes, ∃ glob ∈ entry.paths,
    ∃ r, Permissions.globToRegExp glob = .ok r ∧ r.test path = true

/-- Every glob of the policy compiles and none matches. -/
def Spares (policy : NormalizedProtectedPathsPolicy) (path : String) : Prop :=
  ∀ entry ∈ policy.protected_classes, ∀ glob ∈ entry.paths,
    ∃ r, Permissions.globToRegExp glob = .ok r ∧ r.test path = false

theorem glob_result_iff (glob path : String) (b : Bool) :
    (do return (← Permissions.globToRegExp glob).test path : Except JsError Bool) = .ok b ↔
      ∃ r, Permissions.globToRegExp glob = .ok r ∧ r.test path = b := by
  rw [bind_eq_ok]
  constructor
  · intro hcase
    obtain ⟨r, hr, h⟩ := hcase
    cases h
    exact ⟨r, hr, rfl⟩
  · intro hcase
    obtain ⟨r, hr, rfl⟩ := hcase
    exact ⟨r, hr, rfl⟩

theorem protectedPathClassFor_none_iff (path : String) (policy : ProtectedPathsPolicy) :
    protectedPathClassFor path policy = .ok none ↔
      Spares (withProtectedPathDefaults policy) path := by
  unfold protectedPathClassFor someGlobMatches Spares
  simp only [findM?_eq_none_iff, anyM_eq_false_iff, glob_result_iff]

theorem not_spares_of_protects {policy : NormalizedProtectedPathsPolicy} {path : String}
    (h : Protects policy path) : ¬ Spares policy path := by
  intro hs
  obtain ⟨entry, he, glob, hg, r, hr, ht⟩ := h
  obtain ⟨r', hr', hf⟩ := hs entry he glob hg
  rw [hr] at hr'
  cases hr'
  rw [ht] at hf
  cases hf

/-- The answer is that nothing is touched exactly when every path is spared. -/
theorem protectedPathDecision_untouched_iff (paths : List String) (policy : ProtectedPathsPolicy) :
    protectedPathDecision paths policy = .ok untouched ↔
      ∀ p ∈ paths, Spares (withProtectedPathDefaults policy) p := by
  have hnone := findSomeM?_eq_none_iff (fun p => protectedPathClassFor p policy) paths
  simp only [protectedPathClassFor_none_iff] at hnone
  rw [← hnone, protectedPathDecision, bind_eq_ok]
  constructor
  · intro hcase
    obtain ⟨found, hf, h⟩ := hcase
    cases found with
    | none => exact hf
    | some matched => cases h
  · intro h
    exact ⟨none, h, rfl⟩

/-- Otherwise it names the class that was touched. -/
theorem protectedPathDecision_cases {paths : List String} {policy : ProtectedPathsPolicy}
    {d : PathDecision} (h : protectedPathDecision paths policy = .ok d) :
    d = untouched ∨ ∃ matched, d = touched matched := by
  rw [protectedPathDecision, bind_eq_ok] at h
  obtain ⟨found, _, h⟩ := h
  cases found with
  | none =>
      cases h
      exact Or.inl rfl
  | some matched =>
      cases h
      exact Or.inr ⟨matched, rfl⟩

/-! ## The shipped protection -/

/-- `policies/protected-paths.json` as completed. -/
def shippedProtection : NormalizedProtectedPathsPolicy :=
  withProtectedPathDefaults protectedPathsFile

theorem mem_shipped_globs (glob : String) :
    (∃ entry ∈ shippedProtection.protected_classes, glob ∈ entry.paths) ↔
      ∃ z ∈ classPerimeter, z.pattern = glob := by
  have hl : ∀ entry ∈ shippedProtection.protected_classes, ∀ g ∈ entry.paths,
      ∃ z ∈ classPerimeter, z.pattern = g := by decide +kernel
  have hr : ∀ z ∈ classPerimeter,
      ∃ entry ∈ shippedProtection.protected_classes, z.pattern ∈ entry.paths := by decide +kernel
  constructor
  · intro h
    obtain ⟨entry, he, hg⟩ := h
    exact hl entry he glob hg
  · intro h
    obtain ⟨z, hz, rfl⟩ := h
    exact hr z hz

/-- The shipped classes protect exactly the paths of their perimeter. -/
theorem shipped_protects_iff (path : String) :
    Protects shippedProtection path ↔ classPerimeter.Covers path := by
  constructor
  · intro h
    obtain ⟨entry, he, glob, hg, r, hr, ht⟩ := h
    obtain ⟨z, hz, rfl⟩ := (mem_shipped_globs glob).mp ⟨entry, he, hg⟩
    rw [permissions_compiles hz] at hr
    cases hr
    have hstarless := shipped_starless (List.mem_append_right truthPerimeter hz)
    rw [test_compiled_zone hstarless] at ht
    exact ⟨z, hz, (z.test_matcher path).mp ht⟩
  · intro h
    obtain ⟨z, hz, hc⟩ := h
    obtain ⟨entry, he, hg⟩ := (mem_shipped_globs z.pattern).mpr ⟨z, hz, rfl⟩
    have hstarless := shipped_starless (List.mem_append_right truthPerimeter hz)
    exact ⟨entry, he, _, hg, _, permissions_compiles hz,
      (test_compiled_zone hstarless path).trans ((z.test_matcher path).mpr hc)⟩

/-- And spare all others, since every shipped glob compiles. -/
theorem shipped_spares_iff (path : String) :
    Spares shippedProtection path ↔ ¬ classPerimeter.Covers path := by
  constructor
  · intro hs hc
    exact not_spares_of_protects ((shipped_protects_iff path).mpr hc) hs
  · intro hn entry he glob hg
    obtain ⟨z, hz, rfl⟩ := (mem_shipped_globs glob).mp ⟨entry, he, hg⟩
    have hstarless := shipped_starless (List.mem_append_right truthPerimeter hz)
    refine ⟨_, permissions_compiles hz, ?_⟩
    rw [test_compiled_zone hstarless, Bool.eq_false_iff]
    exact fun ht => hn ⟨z, hz, (z.test_matcher path).mp ht⟩

/-! ## The emergency stop -/

def isWriteDisabled (policy : PermissionPolicy) (env : Env) : Bool :=
  let normalized := withPermissionDefaults policy
  let variable_ :=
    textOr (some normalized.environment.write_disabled_variable) "ADMISSORIUM_WRITE_DISABLED"
  env variable_ = some "true"

theorem isWriteDisabled_asPolicy (policy : PermissionPolicy) (env : Env) :
    isWriteDisabled (withPermissionDefaults policy).asPolicy env = isWriteDisabled policy env := by
  simp only [isWriteDisabled, withPermissionDefaults_asPolicy]

/-! ## The write decision -/

structure DecideWriteInput where
  mode : Option String := none
  writeClass : Option String := none
  write_class : Option String := none
  action : Option String := none
  targetPath : Option String := none
  target_path : Option String := none
  changedPaths : Option (List String) := none
  changed_paths : Option (List String) := none
  executeWrite : Option Bool := none
  execute_write : Option Bool := none
  permissionPolicy : Option PermissionPolicy := none
  permission_policy : Option PermissionPolicy := none
  protectedPathsPolicy : Option ProtectedPathsPolicy := none
  protected_paths_policy : Option ProtectedPathsPolicy := none
  policy : Option PermissionPolicy := none
  env : Option Env := none

inductive WriteVerdict where
  | allow
  | deny
  | denyProtectedPath
  | requiresGovernanceReview
  | denyWriteDisabled
  deriving DecidableEq, Repr

def WriteVerdict.text : WriteVerdict → String
  | allow => "ALLOW"
  | deny => "DENY"
  | denyProtectedPath => "DENY_PROTECTED_PATH"
  | requiresGovernanceReview => "REQUIRES_GOVERNANCE_REVIEW"
  | denyWriteDisabled => "DENY_WRITE_DISABLED"

/-- Every field in both spellings, as the function fills them. -/
structure WriteDecision where
  decision : WriteVerdict
  reason : String
  allowed : Bool
  writeAllowed : Bool
  write_allowed : Bool
  denied : Bool
  emergencyStopActive : Bool
  emergency_stop_active : Bool
  writeDisabled : Bool
  write_disabled : Bool
  dryRun : Bool
  dry_run : Bool
  requiresGovernanceReview : Bool
  requires_governance_review : Bool
  protectedPathTouched : Bool
  protected_path_touched : Bool
  matchedProtectedClass : Option ClassId
  matched_protected_class : Option ClassId
  checkRunWriteAllowed : Bool
  check_run_write_allowed : Bool
  projectionRepairAllowed : Bool
  projection_repair_allowed : Bool
  quarantineIssueAllowed : Bool
  quarantine_issue_allowed : Bool
  deriving DecidableEq, Repr

def reportClasses : List String := ["REPORT", "LOCAL_REPORT", "LOCAL_VERDICT", "AUDIT"]

def remoteWriteClasses : List String :=
  ["CHECK_RUN", "PROJECTION_REPAIR_BRANCH", "QUARANTINE_ISSUE", "PR_COMMENT", "ISSUE", "LABEL",
    "BRANCH", "CONTENTS"]

/-- `modes[mode] || modes.audit || {}`; what `Object.prototype` defines has no flags. -/
def selectMode (modes : Record ModePolicy) (mode : String) : ModePolicy :=
  match modes.member mode with
  | .own flags => flags
  | .inherited => fun _ => none
  | .absent => (modes "audit").getD (fun _ => none)

/-! The constants `decideWrite` computes from its input. -/

namespace DecideWriteInput

variable (rt : Runtime) (host : Host) (input : DecideWriteInput)

def normalizedPermissionPolicy : NormalizedPermissionPolicy :=
  withPermissionDefaults (((input.permissionPolicy.or input.permission_policy).or input.policy).getD
    (loadPermissionPolicy host).asPolicy)

def normalizedProtectedPolicy : NormalizedProtectedPathsPolicy :=
  withProtectedPathDefaults ((input.protectedPathsPolicy.or input.protected_paths_policy).getD
    (loadProtectedPathsPolicy host).asPolicy)

def effectiveEnv : Env := input.env.getD host.env

def normalizedMode : String :=
  let rawMode := Text.replaceAll (textOr input.mode "audit") "-" "_"
  if rawMode = "repair_projection" then "projection_repair" else rawMode

def normalizedWriteClass : String :=
  rt.toUpperCase ((orElseText (orElseText (orElseText input.writeClass input.write_class)
    input.action) (some "REPORT")).getD "REPORT")

def effectiveTargetPath : Option String := orElseText input.targetPath input.target_path

/-- `targetPath ? [targetPath] : []`. -/
def targetPaths : List String :=
  match input.effectiveTargetPath with
  | some path => if path = "" then [] else [path]
  | none => []

def effectivePaths : List String :=
  (input.changedPaths.or input.changed_paths).getD input.targetPaths

def executes : Bool := input.executeWrite == some true || input.execute_write == some true

def emergency : Bool :=
  isWriteDisabled (input.normalizedPermissionPolicy host).asPolicy (input.effectiveEnv host)

def pathDecision : Except JsError PathDecision :=
  protectedPathDecision input.effectivePaths (input.normalizedProtectedPolicy host).asPolicy

def modePolicy : ModePolicy :=
  selectMode (input.normalizedPermissionPolicy host).modes input.normalizedMode

end DecideWriteInput

section Classes

variable (mode : String) (modePolicy : ModePolicy) (writeClass : String)
  (requiresGovernanceReview : Bool)

def checkRunWriteAllowed : Bool :=
  modePolicy "may_emit_check_runs" = some true && writeClass = "CHECK_RUN"

def isProjectionRepairWrite : Bool :=
  writeClass = "PROJECTION_REPAIR_BRANCH" || writeClass = "PROJECTION_REPAIR_PR" ||
    writeClass = "PROJECTION_REPAIR" || Text.includes writeClass "PROJECTION_REPAIR"

def projectionRepairAllowed : Bool :=
  isProjectionRepairWrite writeClass && !requiresGovernanceReview &&
    (modePolicy "may_open_projection_repair_pr" = some true || mode = "audit" ||
      mode = "projection_repair")

def quarantineIssueAllowed : Bool :=
  modePolicy "may_open_quarantine_issue" = some true && writeClass = "QUARANTINE_ISSUE"

def allowedByClass : Bool :=
  let allowed := reportClasses.contains writeClass || checkRunWriteAllowed modePolicy writeClass ||
    projectionRepairAllowed mode modePolicy writeClass requiresGovernanceReview ||
    quarantineIssueAllowed modePolicy writeClass
  let allowed := if mode = "audit" && !reportClasses.contains writeClass then false else allowed
  if requiresGovernanceReview && !("CHECK_RUN" :: reportClasses).contains writeClass then false
  else allowed

end Classes

def decideWrite (rt : Runtime) (host : Host) (input : DecideWriteInput) :
    Except JsError WriteDecision := do
  let permissionPolicy := input.normalizedPermissionPolicy host
  let mode := input.normalizedMode
  let executeWrite := input.executes
  let normalizedWriteClass := input.normalizedWriteClass rt
  let pathDecision ← input.pathDecision host
  let requiresGovernanceReview := pathDecision.protectedPathTouched
  let modePolicy := input.modePolicy host
  let allowedByClass := allowedByClass mode modePolicy normalizedWriteClass requiresGovernanceReview
  if input.emergency host then
    let variable_ :=
      textOr (some permissionPolicy.environment.write_disabled_variable) "ADMISSORIUM_WRITE_DISABLED"
    return {
      allowed := false
      writeAllowed := false
      write_allowed := false
      denied := true
      reason := variable_ ++ " disables actuator writes."
      decision := .denyWriteDisabled
      emergencyStopActive := true
      emergency_stop_active := true
      writeDisabled := true
      write_disabled := true
      dryRun := true
      dry_run := true
      requiresGovernanceReview
      requires_governance_review := requiresGovernanceReview
      protectedPathTouched := pathDecision.protectedPathTouched
      protected_path_touched := pathDecision.protected_path_touched
      matchedProtectedClass := pathDecision.matchedProtectedClass
      matched_protected_class := pathDecision.matched_protected_class
      checkRunWriteAllowed := false
      check_run_write_allowed := false
      projectionRepairAllowed := false
      projection_repair_allowed := false
      quarantineIssueAllowed := false
      quarantine_issue_allowed := false }
  let writeAllowed :=
    allowedByClass && (!remoteWriteClasses.contains normalizedWriteClass || executeWrite)
  let decision : WriteVerdict :=
    if allowedByClass then .allow
    else if requiresGovernanceReview then
      if pathDecision.matchedProtectedClass = some (.text "governance-registries") then
        .requiresGovernanceReview
      else .denyProtectedPath
    else .deny
  let checkRunWriteAllowed := checkRunWriteAllowed modePolicy normalizedWriteClass
  let projectionRepairAllowed :=
    projectionRepairAllowed mode modePolicy normalizedWriteClass requiresGovernanceReview
  let quarantineIssueAllowed := quarantineIssueAllowed modePolicy normalizedWriteClass
  return {
    allowed := writeAllowed
    writeAllowed
    write_allowed := writeAllowed
    denied := !writeAllowed
    reason :=
      if allowedByClass then "ALLOWED"
      else if requiresGovernanceReview then "GOVERNANCE_REVIEW_REQUIRED"
      else "PERMISSION_DENIED"
    decision
    emergencyStopActive := false
    emergency_stop_active := false
    writeDisabled := false
    write_disabled := false
    dryRun := !executeWrite
    dry_run := !executeWrite
    requiresGovernanceReview
    requires_governance_review := requiresGovernanceReview
    protectedPathTouched := pathDecision.protectedPathTouched
    protected_path_touched := pathDecision.protected_path_touched
    matchedProtectedClass := pathDecision.matchedProtectedClass
    matched_protected_class := pathDecision.matched_protected_class
    checkRunWriteAllowed
    check_run_write_allowed := checkRunWriteAllowed
    projectionRepairAllowed
    projection_repair_allowed := projectionRepairAllowed
    quarantineIssueAllowed
    quarantine_issue_allowed := quarantineIssueAllowed }

end Admissorium.App.Permissions
