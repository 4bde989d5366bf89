import Admissorium.Perimeter

/-!
# Policy files

The policies the guards load, with the fields they read, and the contents of
`policies/*.json` as shipped. A field a file lacks is `none`, and so is the
member of an object the file does not set: the guards fill such gaps themselves,
each in its own way.
-/
namespace Admissorium.Policies
set_option autoImplicit false

open JavaScript

/-! ## What the files may contain -/

/-- The object both `environment` and `emergency_stop` hold. -/
structure EnvironmentSwitch where
  write_disabled_variable : Option String := none

/-- The flags of one mode. -/
abbrev ModePolicy := Record Bool

structure PermissionPolicy where
  environment : Option EnvironmentSwitch := none
  emergency_stop : Option EnvironmentSwitch := none
  forbidden_first_app : Option (List String) := none
  modes : Option (Record ModePolicy) := none

/-- What a class of protected paths is called. A file holds text or nothing; a built-in
of `Object.prototype` gets here when the text is used as a key of a plain object. -/
inductive ClassId where
  | undefined
  | text (s : String)
  | builtin (name : String)
  deriving DecidableEq, Repr

def ClassId.truthy : ClassId → Bool
  | .undefined => false
  | .text s => s ≠ ""
  | .builtin _ => true

def ClassId.or (a b : ClassId) : ClassId := if a.truthy then a else b

/-- One class of a protected-paths file, under any of its legacy spellings. -/
structure ProtectedClassEntry where
  id : ClassId := .undefined
  class_ : ClassId := .undefined
  paths : Option (List String) := none
  path_patterns : Option (List String) := none
  patterns : Option (List String) := none
  globs : Option (List String) := none

structure IfTouched where
  automatic_projection_repair_allowed : Option Bool := none
  direct_write_allowed : Option Bool := none
  required_decision : Option String := none

/-- `classes` is the oldest spelling; it is read although the type omits it. -/
structure ProtectedPathsPolicy where
  policy_type : Option String := none
  schema_version : Option String := none
  protected_classes : Option (List ProtectedClassEntry) := none
  protectedClasses : Option (List ProtectedClassEntry) := none
  classes : Option (List ProtectedClassEntry) := none
  if_touched : Option IfTouched := none

structure ProtectedTruthPathsPolicy where
  protected_paths : Option (List String) := none
  if_touched : Option IfTouched := none

/-- `canonical_switch` is what the file's schema requires, `environment_switch`
what the evaluator asks for. -/
structure EmergencyStopPolicy where
  canonical_switch : Option String := none
  environment_switch : Option String := none

/-- The files under `policies/`; the first two may be missing. -/
structure PolicyFiles where
  permissionPolicy : Option PermissionPolicy
  protectedPaths : Option ProtectedPathsPolicy
  protectedTruthPaths : ProtectedTruthPathsPolicy
  emergencyStop : EmergencyStopPolicy

/-- The process a guard runs in. -/
structure Host where
  env : Env
  policies : PolicyFiles

/-! ## The shipped files -/

/-- The five flags of a mode in the order the file lists them. -/
def modePolicy (reports checkRuns projectionRepair quarantineIssue contents : Bool) : ModePolicy :=
  Record.ofList [("may_emit_reports", reports), ("may_emit_check_runs", checkRuns),
    ("may_open_projection_repair_pr", projectionRepair),
    ("may_open_quarantine_issue", quarantineIssue), ("may_write_repository_contents", contents)]

/-- `policies/permission-policy.json`. -/
def permissionPolicyFile : PermissionPolicy where
  emergency_stop := some ⟨some "ADMISSORIUM_WRITE_DISABLED"⟩
  modes := some (Record.ofList
    [("audit", modePolicy true false false false false),
      ("block", modePolicy true true false false false),
      ("projection_repair", modePolicy true true true false false)])
  forbidden_first_app := some ["administration:write", "contents:write", "secrets:write",
    "variables:write", "environments:write", "deployments:write", "packages:write",
    "members:write"]

def protectedClass (name : String) (paths : List String) : ProtectedClassEntry where
  id := .text name
  class_ := .text name
  paths := some paths

/-- The list `policies/protected-paths.json` repeats under each of its three spellings. -/
def protectedClassList : List ProtectedClassEntry :=
  [protectedClass "constitutional-law" ["law/**", "laws/**"],
    protectedClass "accepted-state" ["epochs/current/**", "state/current/**"],
    protectedClass "authority" ["authorities/current/**"],
    protectedClass "execution-receipts" ["receipts/current/**"],
    protectedClass "verification-results" ["verification/results/current/**"],
    protectedClass "terminal-recognition" ["recognitions/current/**"],
    protectedClass "terminal-recourse" ["recourses/current/**", "recourse/current/**"],
    protectedClass "claims" ["claims/current/**"],
    protectedClass "continuity-transfer" ["continuity/current/**", "transfer/current/**"],
    protectedClass "release-identity" ["LICENSE", "package.json", ".github/workflows/*release*"],
    protectedClass "governance-registries"
      [".github/GOVERNED_REPOS.txt", ".github/LICENSES.json", ".github/PACKAGES.json",
        ".github/REPO_CLASSES.json"]]

def governanceReviewOrBlocked : IfTouched where
  automatic_projection_repair_allowed := some false
  direct_write_allowed := some false
  required_decision := some "GOVERNANCE_REVIEW_REQUIRED_OR_BLOCKED"

/-- `policies/protected-paths.json`. Its flat `protected_paths` list is read by no guard. -/
def protectedPathsFile : ProtectedPathsPolicy where
  classes := some protectedClassList
  protected_classes := some protectedClassList
  protectedClasses := some protectedClassList
  if_touched := some governanceReviewOrBlocked

/-- `policies/protected-truth-paths.json`. -/
def protectedTruthPathsFile : ProtectedTruthPathsPolicy where
  protected_paths := some ["law/**", "laws/**", "freeze/**", "freezes/**", "current/**",
    "epochs/current/**", "state/current/**", "authorities/current/**", "receipts/current/**",
    "verification/results/current/**", "recognitions/current/**", "recourse/current/**",
    "claims/current/**", "continuity/current/**", "transfer/current/**", "LICENSE",
    "package.json", ".github/workflows/*release*"]
  if_touched := some governanceReviewOrBlocked

/-- `policies/emergency-stop.json`. -/
def emergencyStopFile : EmergencyStopPolicy where
  canonical_switch := some "ADMISSORIUM_WRITE_DISABLED"

def shipped : PolicyFiles where
  permissionPolicy := some permissionPolicyFile
  protectedPaths := some protectedPathsFile
  protectedTruthPaths := protectedTruthPathsFile
  emergencyStop := emergencyStopFile

/-! ## The perimeters the shipped files describe -/

/-- The families both protection files fence off. -/
def commonZones : Perimeter :=
  [.directory "law", .directory "laws", .directory "epochs/current", .directory "state/current",
    .directory "authorities/current", .directory "receipts/current",
    .directory "verification/results/current", .directory "recognitions/current",
    .directory "recourse/current", .directory "claims/current", .directory "continuity/current",
    .directory "transfer/current", .file "LICENSE", .file "package.json",
    .entries ".github/workflows" "release"]

/-- The families only `protected-truth-paths.json` lists. -/
def truthOnlyZones : Perimeter :=
  [.directory "freeze", .directory "freezes", .directory "current"]

/-- The families only `protected-paths.json` lists. -/
def classOnlyZones : Perimeter :=
  [.directory "recourses/current", .file ".github/GOVERNED_REPOS.txt",
    .file ".github/LICENSES.json", .file ".github/PACKAGES.json",
    .file ".github/REPO_CLASSES.json"]

def truthPerimeter : Perimeter := commonZones ++ truthOnlyZones
def classPerimeter : Perimeter := commonZones ++ classOnlyZones

theorem mem_truth_patterns (pattern : String) :
    pattern ∈ protectedTruthPathsFile.protected_paths.getD [] ↔
      ∃ z ∈ truthPerimeter, z.pattern = pattern := by
  have hl : ∀ p ∈ protectedTruthPathsFile.protected_paths.getD [],
      ∃ z ∈ truthPerimeter, z.pattern = p := by decide
  have hr : ∀ z ∈ truthPerimeter, z.pattern ∈ protectedTruthPathsFile.protected_paths.getD [] := by
    decide
  constructor
  · exact hl pattern
  · intro h
    obtain ⟨z, hz, rfl⟩ := h
    exact hr z hz

/-- No path lies in two families of the truth perimeter. -/
theorem truthPerimeter_apart :
    ∀ y ∈ truthPerimeter, ∀ z ∈ truthPerimeter, y ≠ z → Zone.Apart y z := by decide

end Admissorium.Policies
