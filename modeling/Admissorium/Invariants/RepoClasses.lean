import Admissorium.Invariants.Registries
import Admissorium.JavaScript.OwnEntries

/-!
# The class registry, exactly

`repoClassRegistryInvariant` is silent on the registries it should be silent on and on no
other, and names each repository that is listed twice once (`auditExact`). It looks at the
first entry of the enforcement repository only; a second one is a duplicate already.
-/
namespace Admissorium.Invariants.RepoClasses
set_option autoImplicit false

open JavaScript Reports Findings Registries

/-- What an entry of the enforcement repository has to say. -/
structure RequiredRole (entry : RepoClassRegistryEntry) : Prop where
  class_ : entry.class_ = "admissibility_enforcement_implementation"
  primary_role : entry.primary_role = "admission_gate_actuator"
  sovereign_chamber : entry.get "sovereign_chamber" = .bool false
  truth_owner : entry.get "truth_owner" = .bool false
  may_rewrite : entry.get "may_rewrite_current_truth_objects" = .bool false

/-- The registry lists the governed repositories, once each, and the role is kept. -/
structure RegistryHolds (governedRepos : List String) (entries : List RepoClassRegistryEntry) :
    Prop where
  once : (entries.map RepoClassRegistryEntry.repo).Nodup
  perimeter : ∀ repo, repo ∈ entries.map RepoClassRegistryEntry.repo ↔ repo ∈ governedRepos
  role : ∀ entry ∈ entries, entry.repo = "Verifrax/ADMISSORIUM" → RequiredRole entry

def entriesOf (repo : String) (entries : List RepoClassRegistryEntry) : List RepoClassRegistryEntry :=
  entries.filter (fun entry => entry.repo = repo)

def isDuplicateOf (repo : String) (finding : Finding) : Bool :=
  finding.finding_id = "RED-REPO-CLASS-DUPLICATE" && finding.repo = repo

/-- Silent exactly when the registry holds, and one duplicate finding for each repository
that has more than one entry. -/
structure AuditExact (governedRepos : List String) (entries : List RepoClassRegistryEntry)
    (sourceOfTruth : String) : Prop where
  silent_iff : repoClassRegistryInvariant governedRepos entries sourceOfTruth = [] ↔
    RegistryHolds governedRepos entries
  duplicates : ∀ repo, ((repoClassRegistryInvariant governedRepos entries sourceOfTruth).filter
    (isDuplicateOf repo)).length = if 1 < (entriesOf repo entries).length then 1 else 0

variable {governedRepos : List String} {entries : List RepoClassRegistryEntry}

theorem roleInvalid_eq_false_iff (entry : RepoClassRegistryEntry) :
    roleInvalid entry = false ↔ RequiredRole entry := by
  simp only [roleInvalid, Bool.or_eq_false_iff, decide_eq_false_iff_not, not_not,
    Bool.not_eq_false', Value.strictEquals_bool]
  constructor
  · intro h
    obtain ⟨⟨⟨⟨hclass, hrole⟩, hsovereign⟩, htruth⟩, hrewrite⟩ := h
    exact ⟨hclass, hrole, hsovereign, htruth, hrewrite⟩
  · exact fun h => ⟨⟨⟨⟨h.class_, h.primary_role⟩, h.sovereign_chamber⟩, h.truth_owner⟩, h.may_rewrite⟩

/-! ## Silence -/

/-- Every finding of the audit is red. -/
theorem eq_nil_iff_free (governedRepos : List String) (entries : List RepoClassRegistryEntry)
    (sourceOfTruth : String) :
    repoClassRegistryInvariant governedRepos entries sourceOfTruth = [] ↔
      Free IsRed (repoClassRegistryInvariant governedRepos entries sourceOfTruth) := by
  have hpush : ∀ {failed : Bool} {finding f : Finding}, f ∈ pushIf failed finding →
      IsRed finding → IsRed f := by
    intro failed finding f hf hred
    cases failed with
    | false => cases hf
    | true => exact List.mem_singleton.mp hf ▸ hred
  have hred : ∀ f ∈ repoClassRegistryInvariant governedRepos entries sourceOfTruth, IsRed f := by
    intro f hf
    rw [repoClassRegistryInvariant, List.mem_append, List.mem_append, List.mem_flatMap] at hf
    rcases hf with (hdup | hperimeter) | hrole
    · obtain ⟨bucket, _, hf⟩ := hdup
      exact hpush hf rfl
    · exact hpush hperimeter rfl
    · rw [roleFindings] at hrole
      split at hrole
      · exact hpush hrole rfl
      · cases hrole
  rw [List.eq_nil_iff_forall_not_mem]
  exact ⟨fun h f hf => absurd hf (h f), fun h f hf => h f hf (hred f hf)⟩

/-- With one entry for each repository, the first one of a repository is the only one. -/
theorem roleKept_iff (hnodup : (entries.map RepoClassRegistryEntry.repo).Nodup) :
    RoleKept entries ↔
      ∀ entry ∈ entries, entry.repo = "Verifrax/ADMISSORIUM" → RequiredRole entry := by
  constructor
  · intro h entry hentry hrepo
    cases hfind : entries.find? (fun entry => entry.repo = "Verifrax/ADMISSORIUM") with
    | none =>
        have hnone := List.find?_eq_none.mp hfind entry hentry
        exact absurd (decide_eq_true hrepo) hnone
    | some first =>
        have hfirst := List.find?_some hfind
        have heq : first = entry := List.inj_on_of_nodup_map hnodup (List.mem_of_find?_eq_some hfind)
          hentry ((of_decide_eq_true hfirst).trans hrepo.symm)
        rw [← heq, ← roleInvalid_eq_false_iff]
        exact h first hfind
  · intro h entry hfind
    have hrepo := List.find?_some hfind
    rw [roleInvalid_eq_false_iff]
    exact h entry (List.mem_of_find?_eq_some hfind) (of_decide_eq_true hrepo)

theorem classesMet_iff_holds : ClassesMet governedRepos entries ↔ RegistryHolds governedRepos entries := by
  constructor
  · intro h
    exact ⟨h.once, fun repo => (h.perimeter repo).symm, (roleKept_iff h.once).mp h.role⟩
  · intro h
    exact ⟨h.once, fun repo => (h.perimeter repo).symm, (roleKept_iff h.once).mpr h.role⟩

/-! ## Duplicates -/

theorem filter_pushIf_other {repo : String} {failed : Bool} {finding : Finding}
    (h : isDuplicateOf repo finding = false) : (pushIf failed finding).filter (isDuplicateOf repo) = [] := by
  cases failed with
  | false => rfl
  | true => exact List.filter_eq_nil_iff.mpr (fun f hf => by
      rw [List.mem_singleton.mp hf, h]
      exact Bool.false_ne_true)

theorem filter_duplicateFinding (sourceOfTruth repo : String) (bucket : List RepoClassRegistryEntry) :
    ((duplicateFinding sourceOfTruth (repo, bucket)).filter (isDuplicateOf repo)).length =
      if 1 < bucket.length then 1 else 0 := by
  unfold duplicateFinding
  by_cases hmany : 1 < bucket.length
  · simp [pushIf, isDuplicateOf, hmany]
  · simp [pushIf, hmany]

/-- Of the three parts only the first holds duplicate findings. -/
theorem filter_audit (governedRepos : List String) (entries : List RepoClassRegistryEntry)
    (sourceOfTruth repo : String) :
    (repoClassRegistryInvariant governedRepos entries sourceOfTruth).filter (isDuplicateOf repo) =
      ((Buckets.collect RepoClassRegistryEntry.repo entries).flatMap
        (duplicateFinding sourceOfTruth)).filter (isDuplicateOf repo) := by
  have hrole : (roleFindings sourceOfTruth entries).filter (isDuplicateOf repo) = [] := by
    unfold roleFindings
    split
    · exact filter_pushIf_other rfl
    · rfl
  rw [repoClassRegistryInvariant, List.filter_append, List.filter_append, hrole,
    filter_pushIf_other rfl, List.append_nil, List.append_nil]

theorem length_duplicates (governedRepos : List String) (entries : List RepoClassRegistryEntry)
    (sourceOfTruth repo : String) :
    ((repoClassRegistryInvariant governedRepos entries sourceOfTruth).filter
      (isDuplicateOf repo)).length = if 1 < (entriesOf repo entries).length then 1 else 0 := by
  have hother : ∀ (entry : String × List RepoClassRegistryEntry) key, entry.1 ≠ key →
      (duplicateFinding sourceOfTruth entry).filter (isDuplicateOf key) = [] := by
    intro entry key hne
    apply filter_pushIf_other
    rw [isDuplicateOf, Bool.and_eq_false_iff]
    exact Or.inr (decide_eq_false hne)
  have hbucket := Buckets.lookup_collect RepoClassRegistryEntry.repo entries repo
  rw [filter_audit, OwnEntries.filter_flatMap_eq (Buckets.nodup_collect _ entries) _ isDuplicateOf hother,
    entriesOf, ← hbucket]
  cases (Buckets.collect RepoClassRegistryEntry.repo entries).lookup repo with
  | none => rfl
  | some bucket => exact filter_duplicateFinding sourceOfTruth repo bucket

theorem auditExact (governedRepos : List String) (entries : List RepoClassRegistryEntry)
    (sourceOfTruth : String) : AuditExact governedRepos entries sourceOfTruth := by
  refine ⟨?_, length_duplicates governedRepos entries sourceOfTruth⟩
  rw [eq_nil_iff_free, free_repoClassRegistry_iff, classesMet_iff_holds]

end Admissorium.Invariants.RepoClasses
