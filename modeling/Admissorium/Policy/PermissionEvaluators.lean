import Admissorium.Policies

/-!
# The two evaluators of the App's permissions

Both read `github-app-permission-policy.json`. The JavaScript one compares a request
with the fields `allowed` and `forbidden`; the TypeScript one asks for a field
`forbidden_permissions`, which the file does not have, and `Object.entries` of
nothing throws before the granted permissions are looked at (`evaluatorsAgree_iff`).
-/
namespace Admissorium.Policy.PermissionEvaluators
set_option autoImplicit false

open JavaScript

/-- A map of permission names to levels, in the order of its entries. -/
abbrev PermissionMap := List (String × String)

/-- The fields of the policy that one evaluator or the other reads. -/
structure GitHubAppPermissionPolicy where
  allowed : Option PermissionMap := none
  forbidden : Option (List String) := none
  forbidden_permissions : Option PermissionMap := none

/-- `policies/github-app-permission-policy.json`. -/
def gitHubAppPermissionPolicyFile : GitHubAppPermissionPolicy where
  allowed := some [("metadata", "read"), ("contents", "read"), ("pull_requests", "write"),
    ("issues", "write"), ("checks", "write"), ("actions", "read"), ("pages", "read"),
    ("packages", "read"), ("commit_statuses", "write")]
  forbidden := some ["administration", "secrets", "variables_write", "environments_write",
    "deployments_write", "packages_write", "members_write", "contents_write", "main_write"]

/-! ## `evaluate-github-app-permissions.ts` -/

structure PermissionEvaluation where
  permission_minimized : Bool
  overgrants : List String
  deriving DecidableEq, Repr

/-- `Object.entries`, which throws on `undefined`. -/
def objectEntries (map : Option PermissionMap) : Except JsError PermissionMap :=
  match map with
  | some entries => .ok entries
  | none => .error .typeError

/-- What a name of `Object.prototype` finds is no level. -/
def evaluateGithubAppPermissions (policy : GitHubAppPermissionPolicy) (granted : PermissionMap) :
    Except JsError PermissionEvaluation := do
  let entries ← objectEntries policy.forbidden_permissions
  let overgrants := (entries.filter fun (permission, level) =>
    granted.lookup permission == some level).map fun (permission, level) =>
      permission ++ ":" ++ level
  return { permission_minimized := overgrants.length == 0, overgrants }

/-! ## `evaluate-permissions.js` -/

structure ForbiddenPermission where
  name : String
  level : String
  reason : String
  deriving DecidableEq, Repr

structure PermissionVerdict where
  verdict : String
  forbidden : List ForbiddenPermission
  deriving DecidableEq, Repr

/-- What one turn of the loop pushes. -/
def forbiddenRequest (policy : GitHubAppPermissionPolicy) (name level : String) :
    Option ForbiddenPermission :=
  let allowed := policy.allowed.getD []
  if (policy.forbidden.getD []).contains name then
    some { name, level, reason := "explicitly_forbidden" }
  else
    match allowed.lookup name with
    | none => some { name, level, reason := "not_allowlisted" }
    | some allowedLevel =>
        if allowedLevel = "read" ∧ level ≠ "read" then
          some { name, level, reason := "write_requested_where_only_read_allowed" }
        else none

def evaluateGitHubAppPermissions (requested : Option PermissionMap)
    (policy : GitHubAppPermissionPolicy) : PermissionVerdict :=
  let forbidden := (requested.getD []).filterMap fun (name, level) =>
    forbiddenRequest policy name level
  { verdict :=
      if forbidden.length = 0 then "PERMISSION_POLICY_PASS" else "BLOCKED_PERMISSION_EXPANSION"
    forbidden }

/-! ## What each of them answers -/

variable (policy : GitHubAppPermissionPolicy) (granted : PermissionMap)

/-- A permission granted at the level a policy forbids. -/
def Overgranted (entries : PermissionMap) : Prop :=
  ∃ entry ∈ entries, granted.lookup entry.1 = some entry.2

/-- A name on the list of forbidden ones is granted, at whatever level. -/
def NamesForbidden : Prop :=
  ∃ entry ∈ granted, entry.1 ∈ policy.forbidden.getD []

theorem evaluateGithubAppPermissions_some {entries : PermissionMap}
    (h : policy.forbidden_permissions = some entries) :
    ∃ result, evaluateGithubAppPermissions policy granted = .ok result ∧
      (result.permission_minimized = false ↔ Overgranted granted entries) := by
  have hrun : evaluateGithubAppPermissions policy granted =
      (objectEntries policy.forbidden_permissions >>= _) := rfl
  rw [hrun, h]
  refine ⟨_, rfl, ?_⟩
  simp only [List.length_map, beq_eq_false_iff_ne, ne_eq, List.length_eq_zero_iff,
    List.filter_eq_nil_iff, Overgranted]
  simp

theorem evaluateGithubAppPermissions_none (h : policy.forbidden_permissions = none) :
    evaluateGithubAppPermissions policy granted = .error .typeError := by
  have hrun : evaluateGithubAppPermissions policy granted =
      (objectEntries policy.forbidden_permissions >>= _) := rfl
  rw [hrun, h]
  rfl

theorem forbiddenRequest_explicit_iff (name level : String) :
    (∃ f, forbiddenRequest policy name level = some f ∧ f.reason = "explicitly_forbidden") ↔
      name ∈ policy.forbidden.getD [] := by
  unfold forbiddenRequest
  by_cases hname : name ∈ policy.forbidden.getD []
  · simp [hname]
  · simp only [List.contains_iff_mem, hname, if_false, iff_false]
    intro h
    obtain ⟨f, hf, hreason⟩ := h
    cases hallowed : (policy.allowed.getD []).lookup name with
    | none =>
        rw [hallowed] at hf
        cases hf
        simp at hreason
    | some allowedLevel =>
        rw [hallowed] at hf
        dsimp only at hf
        split at hf
        · cases hf
          simp at hreason
        · cases hf

/-- An entry is listed as explicitly forbidden exactly when its name is on the list. -/
theorem explicitly_forbidden_iff :
    (∃ f ∈ (evaluateGitHubAppPermissions (some granted) policy).forbidden,
      f.reason = "explicitly_forbidden") ↔ NamesForbidden policy granted := by
  simp only [evaluateGitHubAppPermissions, Option.getD_some, List.mem_filterMap, NamesForbidden]
  constructor
  · intro h
    obtain ⟨f, ⟨entry, hentry, hf⟩, hreason⟩ := h
    exact ⟨entry, hentry, (forbiddenRequest_explicit_iff policy entry.1 entry.2).mp ⟨f, hf, hreason⟩⟩
  · intro h
    obtain ⟨entry, hentry, hname⟩ := h
    obtain ⟨f, hf, hreason⟩ := (forbiddenRequest_explicit_iff policy entry.1 entry.2).mpr hname
    exact ⟨f, ⟨entry, hentry, hf⟩, hreason⟩

/-! ## Agreement -/

/-- The TypeScript evaluator answers, and reports no minimal grant where the JavaScript
one names a forbidden entry. -/
def EvaluatorsAgree : Prop :=
  ∃ result, evaluateGithubAppPermissions policy granted = .ok result ∧
    ((∃ f ∈ (evaluateGitHubAppPermissions (some granted) policy).forbidden,
      f.reason = "explicitly_forbidden") → result.permission_minimized = false)

/-- Under any policy the two agree exactly when it has the field the TypeScript evaluator
reads, and that field catches some level wherever a forbidden name is granted. -/
theorem evaluatorsAgree_iff :
    EvaluatorsAgree policy granted ↔ ∃ entries, policy.forbidden_permissions = some entries ∧
      (NamesForbidden policy granted → Overgranted granted entries) := by
  unfold EvaluatorsAgree
  rw [explicitly_forbidden_iff]
  constructor
  · intro h
    obtain ⟨result, hresult, hagree⟩ := h
    cases hentries : policy.forbidden_permissions with
    | none =>
        rw [evaluateGithubAppPermissions_none policy granted hentries] at hresult
        cases hresult
    | some entries =>
        obtain ⟨result', hresult', hiff⟩ :=
          evaluateGithubAppPermissions_some policy granted hentries
        obtain rfl := Except.ok.inj (hresult'.symm.trans hresult)
        exact ⟨entries, rfl, fun hnames => hiff.mp (hagree hnames)⟩
  · intro h
    obtain ⟨entries, hentries, hagree⟩ := h
    obtain ⟨result, hresult, hiff⟩ := evaluateGithubAppPermissions_some policy granted hentries
    exact ⟨result, hresult, fun hnames => hiff.mpr (hagree hnames)⟩

/-- Under the shipped policy they agree on no map: the TypeScript evaluator throws. -/
theorem shipped_never_agree :
    evaluateGithubAppPermissions gitHubAppPermissionPolicyFile granted = .error .typeError ∧
      ¬ EvaluatorsAgree gitHubAppPermissionPolicyFile granted := by
  refine ⟨evaluateGithubAppPermissions_none _ granted rfl, ?_⟩
  rw [evaluatorsAgree_iff]
  intro h
  obtain ⟨entries, hentries, _⟩ := h
  cases hentries

/-- So with write access to the contents, which is forbidden by name. -/
theorem contentsWrite_not_agree :
    ¬ EvaluatorsAgree gitHubAppPermissionPolicyFile [("contents_write", "write")] := by
  intro h
  obtain ⟨result, hresult, _⟩ := h
  cases hresult

end Admissorium.Policy.PermissionEvaluators
