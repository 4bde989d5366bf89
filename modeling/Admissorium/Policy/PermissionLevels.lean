import Admissorium.Policy.PermissionEvaluators

/-!
# Levels of a request

`evaluateGitHubAppPermissions` looks at levels only where `read` is allowed. Where `write` is
allowed every level passes, so a request for `admin` is let through; no other request is
judged wrongly (`levelsMinimised_iff`).
-/
namespace Admissorium.Policy.PermissionLevels
set_option autoImplicit false

open PermissionEvaluators

variable (policy : GitHubAppPermissionPolicy) (requested : PermissionMap)

/-- The order `read < write < admin`. -/
def rank (level : String) : Nat :=
  if level = "read" then 0 else if level = "write" then 1 else 2

/-- The allowed levels are read or write. -/
def AllowedLevels : Prop :=
  ∀ entry ∈ policy.allowed.getD [], entry.2 = "read" ∨ entry.2 = "write"

def RequestedLevels : Prop :=
  ∀ entry ∈ requested, entry.2 = "read" ∨ entry.2 = "write" ∨ entry.2 = "admin"

/-- The level a policy allows for a name. -/
def allowedLevel (name : String) : Option String := (policy.allowed.getD []).lookup name

/-- A request that stays within the policy, in its name and in its level. -/
structure Minimal (entry : String × String) : Prop where
  not_forbidden : entry.1 ∉ policy.forbidden.getD []
  within : ∃ level, allowedLevel policy entry.1 = some level ∧ rank entry.2 ≤ rank level

/-- A map passes when every entry is minimal, and those that are not are the ones listed. -/
structure LevelsMinimised : Prop where
  passes_iff : (evaluateGitHubAppPermissions (some requested) policy).verdict =
    "PERMISSION_POLICY_PASS" ↔ ∀ entry ∈ requested, Minimal policy entry
  listed_iff : ∀ name level, (∃ f ∈ (evaluateGitHubAppPermissions (some requested) policy).forbidden,
    f.name = name ∧ f.level = level) ↔ (name, level) ∈ requested ∧ ¬ Minimal policy (name, level)

/-- No request for `admin` under a name that may be written. -/
def NoAdminAboveWrite : Prop :=
  ∀ entry ∈ requested, entry.2 = "admin" → entry.1 ∉ policy.forbidden.getD [] →
    allowedLevel policy entry.1 ≠ some "write"

/-! ## One turn of the loop -/

/-- What is pushed carries the entry it was pushed for. -/
theorem forbiddenRequest_names {name level : String} {f : ForbiddenPermission}
    (h : forbiddenRequest policy name level = some f) : f.name = name ∧ f.level = level := by
  unfold forbiddenRequest at h
  dsimp only at h
  split at h
  · cases h
    exact ⟨rfl, rfl⟩
  · split at h
    · cases h
      exact ⟨rfl, rfl⟩
    · split at h
      · cases h
        exact ⟨rfl, rfl⟩
      · cases h

/-- An entry is let through when its name is allowed, at whatever level beyond `read`. -/
theorem forbiddenRequest_none_iff (name level : String) :
    forbiddenRequest policy name level = none ↔ name ∉ policy.forbidden.getD [] ∧
      ∃ allowed, allowedLevel policy name = some allowed ∧ (allowed = "read" → level = "read") := by
  unfold forbiddenRequest allowedLevel
  dsimp only
  by_cases hname : name ∈ policy.forbidden.getD []
  · simp [hname]
  · generalize (policy.allowed.getD []).lookup name = looked
    cases looked with
    | none => simp [hname]
    | some allowed => simp [hname]

variable {policy} {requested}

theorem allowedLevel_cases (h : AllowedLevels policy) {name level : String}
    (hlevel : allowedLevel policy name = some level) : level = "read" ∨ level = "write" := by
  obtain ⟨before, after, heq, _⟩ := List.lookup_eq_some_iff.mp hlevel
  exact h (name, level) (heq ▸ List.mem_append_right before List.mem_cons_self)

/-- A minimal entry is let through. -/
theorem Minimal.passes {name level : String}
    (h : Minimal policy (name, level)) : forbiddenRequest policy name level = none := by
  rw [forbiddenRequest_none_iff]
  obtain ⟨allowed, hlookup, hrank⟩ := h.within
  refine ⟨h.not_forbidden, allowed, hlookup, ?_⟩
  intro hread
  by_contra hne
  have hzero : rank allowed = 0 := by rw [hread]; rfl
  have hpos : 0 < rank level := by
    rw [rank, if_neg hne]
    split <;> decide
  change rank level ≤ rank allowed at hrank
  omega

/-- What is let through without being minimal asks for `admin` where `write` is allowed. -/
theorem minimal_iff_of_passes (hallowed : AllowedLevels policy) {name level : String}
    (hlevel : level = "read" ∨ level = "write" ∨ level = "admin")
    (h : forbiddenRequest policy name level = none) :
    Minimal policy (name, level) ↔ ¬ (level = "admin" ∧ allowedLevel policy name = some "write") := by
  obtain ⟨hname, allowed, hlookup, hread⟩ := (forbiddenRequest_none_iff policy name level).mp h
  constructor
  · intro hminimal hadmin
    obtain ⟨rfl, hwrite⟩ := hadmin
    obtain ⟨other, hother, hrank⟩ := hminimal.within
    obtain rfl := Option.some.inj (hwrite.symm.trans hother)
    exact absurd hrank (by decide : ¬ rank "admin" ≤ rank "write")
  · intro hadmin
    refine ⟨hname, allowed, hlookup, ?_⟩
    cases allowedLevel_cases hallowed hlookup with
    | inl hallowedRead =>
        change rank level ≤ rank allowed
        rw [hread hallowedRead, hallowedRead]
    | inr hallowedWrite =>
        have hne : level ≠ "admin" := fun he => hadmin ⟨he, hallowedWrite ▸ hlookup⟩
        rcases hlevel with rfl | rfl | rfl
        · exact Nat.zero_le _
        · rw [hallowedWrite]
        · exact absurd rfl hne

/-! ## The whole map -/

theorem passes_iff_none (policy : GitHubAppPermissionPolicy) (requested : PermissionMap) :
    (evaluateGitHubAppPermissions (some requested) policy).verdict = "PERMISSION_POLICY_PASS" ↔
      ∀ entry ∈ requested, forbiddenRequest policy entry.1 entry.2 = none := by
  simp only [evaluateGitHubAppPermissions, Option.getD_some, List.length_eq_zero_iff,
    List.filterMap_eq_nil_iff]
  split
  · exact iff_of_true rfl ‹_›
  · exact iff_of_false (by decide) ‹_›

theorem listed_iff_some (policy : GitHubAppPermissionPolicy) (requested : PermissionMap)
    (name level : String) :
    (∃ f ∈ (evaluateGitHubAppPermissions (some requested) policy).forbidden,
      f.name = name ∧ f.level = level) ↔
      (name, level) ∈ requested ∧ forbiddenRequest policy name level ≠ none := by
  simp only [evaluateGitHubAppPermissions, Option.getD_some, List.mem_filterMap]
  constructor
  · intro h
    obtain ⟨f, ⟨entry, hentry, hf⟩, hname, hlevel⟩ := h
    obtain ⟨hname', hlevel'⟩ := forbiddenRequest_names policy hf
    have heq : entry = (name, level) :=
      Prod.ext (hname'.symm.trans hname) (hlevel'.symm.trans hlevel)
    subst heq
    refine ⟨hentry, ?_⟩
    rw [hf]
    exact Option.some_ne_none f
  · intro h
    obtain ⟨hentry, hne⟩ := h
    obtain ⟨f, hf⟩ := Option.ne_none_iff_exists'.mp hne
    exact ⟨f, ⟨(name, level), hentry, hf⟩, forbiddenRequest_names policy hf⟩

/-- On levels of the three kinds, a map is judged by its levels as well as by its names
exactly when it asks for `admin` nowhere that `write` is allowed. -/
theorem levelsMinimised_iff (hallowed : AllowedLevels policy) (hrequested : RequestedLevels requested) :
    LevelsMinimised policy requested ↔ NoAdminAboveWrite policy requested := by
  constructor
  · intro h entry hentry hadmin hname hwrite
    obtain ⟨name, level⟩ := entry
    have hpasses : forbiddenRequest policy name level = none :=
      (forbiddenRequest_none_iff policy name level).mpr ⟨hname, "write", hwrite, fun he => absurd he (by decide)⟩
    have hnot : ¬ Minimal policy (name, level) := fun hminimal =>
      (minimal_iff_of_passes hallowed (hrequested _ hentry) hpasses).mp hminimal ⟨hadmin, hwrite⟩
    have hlisted := (h.listed_iff name level).mpr ⟨hentry, hnot⟩
    exact ((listed_iff_some policy requested name level).mp hlisted).2 hpasses
  · intro h
    have hone : ∀ entry ∈ requested,
        (forbiddenRequest policy entry.1 entry.2 = none ↔ Minimal policy entry) := by
      intro entry hentry
      refine ⟨fun hpasses => ?_, Minimal.passes⟩
      rw [minimal_iff_of_passes hallowed (hrequested entry hentry) hpasses]
      intro hadmin
      have hname := ((forbiddenRequest_none_iff policy entry.1 entry.2).mp hpasses).1
      exact h entry hentry hadmin.1 hname hadmin.2
    constructor
    · rw [passes_iff_none]
      exact forall₂_congr hone
    · intro name level
      rw [listed_iff_some]
      exact and_congr_right (fun hentry => not_congr (hone (name, level) hentry))

/-- The shipped policy and a request that reaches it at all three levels. -/
theorem levelsMinimised_iff_shipped :
    LevelsMinimised gitHubAppPermissionPolicyFile
        [("contents", "write"), ("issues", "write"), ("pages", "admin")] ↔
      NoAdminAboveWrite gitHubAppPermissionPolicyFile
        [("contents", "write"), ("issues", "write"), ("pages", "admin")] :=
  levelsMinimised_iff (by unfold AllowedLevels; decide) (by unfold RequestedLevels; decide)

/-- Under the shipped policy a request to administer issues passes. -/
theorem issuesAdmin_not_minimised :
    (evaluateGitHubAppPermissions (some [("issues", "admin")])
        gitHubAppPermissionPolicyFile).verdict = "PERMISSION_POLICY_PASS" ∧
      ¬ LevelsMinimised gitHubAppPermissionPolicyFile [("issues", "admin")] := by
  refine ⟨by decide, ?_⟩
  intro h
  obtain ⟨level, hlevel, hrank⟩ := (h.passes_iff.mp (by decide) _ List.mem_cons_self).within
  have hwrite : allowedLevel gitHubAppPermissionPolicyFile "issues" = some "write" := by decide
  obtain rfl := Option.some.inj (hwrite.symm.trans hlevel)
  revert hrank
  decide

end Admissorium.Policy.PermissionLevels
