import Admissorium.Findings
import Admissorium.JavaScript.Buckets
import Admissorium.Reports

/-!
# Registries of repositories and packages

`invariants/repo-perimeter`, `invariants/repo-class-registry` and `invariants/package-registry`
compare what governance lists with what is there. Lists are compared as sets; only the class
registry looks for an entry that is listed twice.
-/
namespace Admissorium.Invariants.Registries
set_option autoImplicit false

open JavaScript Reports Findings

def IsRed (finding : Finding) : Prop := finding.severity = .red

/-- `items.filter((item) => !new Set(others).has(item))`. -/
def absentFrom (others items : List String) : List String := items.filter (fun item => item ∉ others)

theorem absentFrom_eq_nil_iff {others items : List String} :
    absentFrom others items = [] ↔ ∀ item ∈ items, item ∈ others := by
  rw [absentFrom, List.filter_eq_nil_iff]
  simp only [decide_eq_true_eq, not_not]

/-- What the two lists do not share. -/
def difference (missing extra : List String) : Value :=
  .obj [("missing", texts missing), ("extra", texts extra)]

/-- Two lists have the same members when neither has one the other lacks. -/
theorem sameMembers_iff (a b : List String) :
    (absentFrom b a = [] ∧ absentFrom a b = []) ↔ ∀ item, item ∈ a ↔ item ∈ b := by
  rw [absentFrom_eq_nil_iff, absentFrom_eq_nil_iff]
  constructor
  · exact fun h item => ⟨h.1 item, h.2 item⟩
  · exact fun h => ⟨fun item => (h item).mp, fun item => (h item).mpr⟩

/-! ## The perimeter -/

def repoPerimeterInvariant (expectedRepos observedRepos : List String) : List Finding :=
  let missing := absentFrom observedRepos expectedRepos
  let extra := absentFrom expectedRepos observedRepos
  if missing = [] ∧ extra = [] then []
  else [{
    finding_id := "RED-REPO-PERIMETER-MISMATCH"
    severity := .red
    repo := "Verifrax/.github"
    surface := "governance/GOVERNED_REPOS.txt + local materialization inventory"
    invariant := "governed_repo_perimeter_matches_materialization"
    expected := texts expectedRepos
    observed := difference missing extra
    source_of_truth := ".github/governance/GOVERNED_REPOS.txt"
    autofix_allowed := false
    recommended_action :=
      "Reconcile governed repository registry against live materialization through governance review." }]

theorem free_repoPerimeter_iff (expectedRepos observedRepos : List String) :
    Free IsRed (repoPerimeterInvariant expectedRepos observedRepos) ↔
      ∀ repo, repo ∈ expectedRepos ↔ repo ∈ observedRepos := by
  rw [← sameMembers_iff, repoPerimeterInvariant]
  split
  · exact iff_of_true free_nil ‹_›
  · refine iff_of_false (fun h => h _ List.mem_cons_self rfl) ‹_›

/-! ## The class registry -/

/-- The three texts an entry must have, and its other fields as they are. -/
structure RepoClassRegistryEntry where
  repo : String
  class_ : String
  primary_role : String
  others : List (String × Value) := []

def RepoClassRegistryEntry.get (entry : RepoClassRegistryEntry) (key : String) : Value :=
  (Value.obj entry.others).get key

def RepoClassRegistryEntry.toValue (entry : RepoClassRegistryEntry) : Value :=
  .obj ([("repo", .str entry.repo), ("class", .str entry.class_),
    ("primary_role", .str entry.primary_role)] ++ entry.others)

def duplicateFinding (sourceOfTruth : String)
    (entry : String × List RepoClassRegistryEntry) : List Finding :=
  pushIf (entry.2.length > 1) {
    finding_id := "RED-REPO-CLASS-DUPLICATE"
    severity := .red
    repo := entry.1
    surface := sourceOfTruth
    invariant := "one_repo_one_class_registry_entry"
    expected := .str "exactly one repo class entry per governed repository"
    observed := .num (entry.2.length : Nat)
    source_of_truth := sourceOfTruth
    autofix_allowed := false
    recommended_action :=
      "Resolve duplicate repository class entries through governance review." }

def classPerimeterFinding (sourceOfTruth : String) (governedRepos missing extra : List String) :
    Finding where
  finding_id := "RED-REPO-CLASS-PERIMETER-MISMATCH"
  severity := .red
  repo := "Verifrax/.github"
  surface := sourceOfTruth
  invariant := "repo_class_registry_matches_governed_repos"
  expected := texts governedRepos
  observed := difference missing extra
  source_of_truth := sourceOfTruth
  autofix_allowed := false
  recommended_action :=
    "Align repository class registry with governed repository registry through governance review."

/-- The fields an entry of the enforcement repository must have as they are. -/
def roleInvalid (admissorium : RepoClassRegistryEntry) : Bool :=
  admissorium.class_ ≠ "admissibility_enforcement_implementation" ||
    admissorium.primary_role ≠ "admission_gate_actuator" ||
    !(admissorium.get "sovereign_chamber").strictEquals (.bool false) ||
    !(admissorium.get "truth_owner").strictEquals (.bool false) ||
    !(admissorium.get "may_rewrite_current_truth_objects").strictEquals (.bool false)

def roleFinding (sourceOfTruth : String) (admissorium : RepoClassRegistryEntry) : Finding where
  finding_id := "RED-ADMISSORIUM-ROLE-BOUNDARY"
  severity := .red
  repo := "Verifrax/ADMISSORIUM"
  surface := sourceOfTruth
  invariant := "admissorium_is_admissibility_enforcement_not_truth"
  expected := .obj [("class", .str "admissibility_enforcement_implementation"),
    ("primary_role", .str "admission_gate_actuator"), ("sovereign_chamber", .bool false),
    ("truth_owner", .bool false), ("may_rewrite_current_truth_objects", .bool false)]
  observed := admissorium.toValue
  source_of_truth := sourceOfTruth
  autofix_allowed := false
  recommended_action :=
    "Restore ADMISSORIUM to implementation/admissibility enforcement classification through governance review."

def roleFindings (sourceOfTruth : String) (entries : List RepoClassRegistryEntry) : List Finding :=
  match entries.find? (fun entry => entry.repo = "Verifrax/ADMISSORIUM") with
  | some admissorium => pushIf (roleInvalid admissorium) (roleFinding sourceOfTruth admissorium)
  | none => []

def repoClassRegistryInvariant (governedRepos : List String)
    (entries : List RepoClassRegistryEntry) (sourceOfTruth : String) : List Finding :=
  let classRepos := entries.map RepoClassRegistryEntry.repo
  let missing := absentFrom classRepos governedRepos
  let extra := absentFrom governedRepos classRepos
  (Buckets.collect RepoClassRegistryEntry.repo entries).flatMap (duplicateFinding sourceOfTruth) ++
    pushIf (missing.length > 0 || extra.length > 0)
      (classPerimeterFinding sourceOfTruth governedRepos missing extra) ++
    roleFindings sourceOfTruth entries

/-- The first entry of the enforcement repository has its role. -/
def RoleKept (entries : List RepoClassRegistryEntry) : Prop :=
  ∀ entry, entries.find? (fun entry => entry.repo = "Verifrax/ADMISSORIUM") = some entry →
    roleInvalid entry = false

theorem free_roleFindings_iff (sourceOfTruth : String) (entries : List RepoClassRegistryEntry) :
    Free IsRed (roleFindings sourceOfTruth entries) ↔ RoleKept entries := by
  rw [roleFindings, RoleKept]
  cases entries.find? (fun entry => entry.repo = "Verifrax/ADMISSORIUM") with
  | none => exact iff_of_true free_nil nofun
  | some admissorium =>
      have hred : IsRed (roleFinding sourceOfTruth admissorium) := rfl
      change Free IsRed (pushIf (roleInvalid admissorium) (roleFinding sourceOfTruth admissorium)) ↔ _
      rw [free_pushIf hred]
      constructor
      · intro h entry he
        obtain rfl := Option.some.inj he
        exact h
      · exact fun h => h _ rfl

theorem nodup_map_iff_filter {α : Type} (f : α → String) (items : List α) :
    (items.map f).Nodup ↔ ∀ key, (items.filter (fun item => f item = key)).length ≤ 1 := by
  rw [List.nodup_iff_count_le_one]
  refine forall_congr' (fun key => ?_)
  rw [List.count_eq_countP, List.countP_map, List.countP_eq_length_filter]
  exact Iff.rfl

/-- No bucket of the entries of one repository holds two. -/
theorem free_duplicates_iff (sourceOfTruth : String) (entries : List RepoClassRegistryEntry) :
    Free IsRed ((Buckets.collect RepoClassRegistryEntry.repo entries).flatMap
      (duplicateFinding sourceOfTruth)) ↔ (entries.map RepoClassRegistryEntry.repo).Nodup := by
  rw [free_flatMap, nodup_map_iff_filter]
  have hone : ∀ entry, Free IsRed (duplicateFinding sourceOfTruth entry) ↔ entry.2.length ≤ 1 := by
    intro entry
    refine (free_pushIf ?_ _).trans ?_
    · rfl
    · rw [decide_eq_false_iff_not, Nat.not_lt]
  simp only [hone]
  constructor
  · intro h repo
    by_cases hrepo : repo ∈ (Buckets.collect RepoClassRegistryEntry.repo entries).map Prod.fst
    · obtain ⟨bucket, hbucket, rfl⟩ := List.mem_map.mp hrepo
      rw [← Buckets.mem_collect _ hbucket]
      exact h bucket hbucket
    · have hnone : entries.filter (fun entry => entry.repo = repo) = [] := by
        rw [List.filter_eq_nil_iff]
        intro entry he heq
        exact hrepo ((Buckets.mem_keys_collect _ _ _).mpr ⟨entry, he, of_decide_eq_true heq⟩)
      rw [hnone]
      exact Nat.zero_le 1
  · intro h bucket hbucket
    rw [Buckets.mem_collect _ hbucket]
    exact h bucket.1

/-- What the class registry must be for its check to find nothing red. -/
structure ClassesMet (governedRepos : List String) (entries : List RepoClassRegistryEntry) :
    Prop where
  once : (entries.map RepoClassRegistryEntry.repo).Nodup
  perimeter : ∀ repo, repo ∈ governedRepos ↔ repo ∈ entries.map RepoClassRegistryEntry.repo
  role : RoleKept entries

theorem free_repoClassRegistry_iff (governedRepos : List String)
    (entries : List RepoClassRegistryEntry) (sourceOfTruth : String) :
    Free IsRed (repoClassRegistryInvariant governedRepos entries sourceOfTruth) ↔
      ClassesMet governedRepos entries := by
  have hred : ∀ missing extra,
      IsRed (classPerimeterFinding sourceOfTruth governedRepos missing extra) := fun _ _ => rfl
  rw [repoClassRegistryInvariant, free_append, free_append, free_duplicates_iff,
    free_roleFindings_iff, free_pushIf (hred _ _), Bool.or_eq_false_iff, decide_eq_false_iff_not,
    decide_eq_false_iff_not, Nat.not_lt, Nat.not_lt, Nat.le_zero, Nat.le_zero, List.length_eq_zero_iff,
    List.length_eq_zero_iff, sameMembers_iff]
  exact ⟨fun h => ⟨h.1.1, h.1.2, h.2⟩, fun h => ⟨⟨h.once, h.perimeter⟩, h.role⟩⟩

/-! ## The package registry -/

structure PackageRegistryEntry where
  repo : Option String := none
  package : Option String := none
  name : Option String := none
  source_repo : Option String := none

def packageName (entry : PackageRegistryEntry) : Option String := entry.package.or entry.name

def packageSourceRepo (entry : PackageRegistryEntry) : Option String :=
  entry.source_repo.or entry.repo

structure ObservedPackage where
  repo : String
  name : String
  path : String

/-- The name and the source of an entry, unless one of them is missing or empty. -/
def registered (entry : PackageRegistryEntry) : Option (String × String) :=
  match orElseText (packageName entry) none, orElseText (packageSourceRepo entry) none with
  | some name, some source => some (name, source)
  | _, _ => none

/-- The sources under each name, in the order of the entries. -/
def registryByName (registryEntries : List PackageRegistryEntry) : List (String × List String) :=
  (Buckets.collect Prod.fst (registryEntries.filterMap registered)).map
    (fun bucket => (bucket.1, bucket.2.map Prod.snd))

/-- `[...new Set(sources)]`. -/
def unique (sources : List String) : List String := (Buckets.collect id sources).map Prod.fst

def packageFinding (finding_id : String) (severity : Severity) (repo surface invariant : String)
    (expected : String) (observed : Value) (sourceOfTruth recommended_action : String) : Finding where
  finding_id
  severity
  repo
  surface
  invariant
  expected := .str expected
  observed
  source_of_truth := sourceOfTruth
  autofix_allowed := false
  recommended_action

def conflictFinding (sourceOfTruth : String) (bucket : String × List String) : List Finding :=
  pushIf ((unique bucket.2).length > 1) (packageFinding "RED-PACKAGE-REGISTRY-SOURCE-CONFLICT" .red
    "Verifrax/.github" bucket.1 "one_package_one_source_repo"
    "exactly one source repo per package" (texts (unique bucket.2)) sourceOfTruth
    "Resolve package source ownership through governance review.")

def missingFinding (sourceOfTruth : String) (observedPackages : List ObservedPackage)
    (bucket : String × List String) : List Finding :=
  pushIf (bucket.1 ∉ observedPackages.map ObservedPackage.name)
    (packageFinding "YELLOW-PACKAGE-REGISTRY-MISSING-LIVE-PACKAGE" .yellow
      (bucket.2.head?.getD "Verifrax/.github") bucket.1
      "package_registry_matches_materialized_packages"
      "registered package is materialized locally when source repo is present"
      (.str "package not found in local package.json inventory") sourceOfTruth
      "Confirm whether package is historical, unpublished, or missing from local materialization.")

def unregisteredFinding (sourceOfTruth : String) (registryNames : List String)
    (observed : ObservedPackage) : List Finding :=
  pushIf (observed.name ∉ registryNames)
    (packageFinding "YELLOW-LIVE-PACKAGE-MISSING-FROM-REGISTRY" .yellow observed.repo observed.path
      "package_registry_matches_materialized_packages"
      "live package is represented in governance package registry" (.str observed.name) sourceOfTruth
      "Add package to package registry through governance review or mark it non-canonical.")

def packageRegistryInvariant (registryEntries : List PackageRegistryEntry)
    (observedPackages : List ObservedPackage) (sourceOfTruth : String) : List Finding :=
  let byName := registryByName registryEntries
  byName.flatMap (conflictFinding sourceOfTruth) ++
    byName.flatMap (missingFinding sourceOfTruth observedPackages) ++
    observedPackages.flatMap (unregisteredFinding sourceOfTruth (byName.map Prod.fst))

/-- No name is registered with two sources. -/
def OneSource (registryEntries : List PackageRegistryEntry) : Prop :=
  ∀ a ∈ registryEntries.filterMap registered, ∀ b ∈ registryEntries.filterMap registered,
    a.1 = b.1 → a.2 = b.2

theorem unique_length_le_one_iff (sources : List String) :
    (unique sources).length ≤ 1 ↔ ∀ a ∈ sources, ∀ b ∈ sources, a = b := by
  rw [unique, List.length_map, ← Nat.not_lt, Buckets.one_lt_length_collect_iff]
  constructor
  · intro h a ha b hb
    by_contra hne
    exact h ⟨a, ha, b, hb, hne⟩
  · rintro h ⟨a, ha, b, hb, hne⟩
    exact hne (h a ha b hb)

theorem free_conflicts_iff (sourceOfTruth : String) (registryEntries : List PackageRegistryEntry) :
    Free IsRed ((registryByName registryEntries).flatMap (conflictFinding sourceOfTruth)) ↔
      OneSource registryEntries := by
  have hone : ∀ bucket, Free IsRed (conflictFinding sourceOfTruth bucket) ↔
      ∀ a ∈ bucket.2, ∀ b ∈ bucket.2, a = b := by
    intro bucket
    refine (free_pushIf ?_ _).trans ?_
    · rfl
    · rw [decide_eq_false_iff_not, Nat.not_lt, unique_length_le_one_iff]
  rw [free_flatMap, registryByName, List.forall_mem_map, OneSource]
  simp only [hone]
  constructor
  · intro h a ha b hb hname
    have hkey := (Buckets.mem_keys_collect Prod.fst (registryEntries.filterMap registered) a.1).mpr
      ⟨a, ha, rfl⟩
    obtain ⟨bucket, hbucket, hfst⟩ := List.mem_map.mp hkey
    have hmembers := Buckets.mem_collect Prod.fst hbucket
    refine h bucket hbucket _ (List.mem_map_of_mem ?_) _ (List.mem_map_of_mem ?_)
    · rw [hmembers, List.mem_filter]
      exact ⟨ha, decide_eq_true hfst.symm⟩
    · rw [hmembers, List.mem_filter]
      exact ⟨hb, decide_eq_true (hname ▸ hfst.symm)⟩
  · intro h bucket hbucket x hx y hy
    obtain ⟨a, ha, rfl⟩ := List.mem_map.mp hx
    obtain ⟨b, hb, rfl⟩ := List.mem_map.mp hy
    rw [Buckets.mem_collect Prod.fst hbucket, List.mem_filter] at ha hb
    exact h a ha.1 b hb.1 ((of_decide_eq_true ha.2).trans (of_decide_eq_true hb.2).symm)

theorem free_packageRegistry_iff (registryEntries : List PackageRegistryEntry)
    (observedPackages : List ObservedPackage) (sourceOfTruth : String) :
    Free IsRed (packageRegistryInvariant registryEntries observedPackages sourceOfTruth) ↔
      OneSource registryEntries := by
  have hmissing : Free IsRed ((registryByName registryEntries).flatMap
      (missingFinding sourceOfTruth observedPackages)) :=
    free_flatMap.mpr (fun _ _ => free_pushIf_of_not nofun _)
  have hunregistered : Free IsRed (observedPackages.flatMap (unregisteredFinding sourceOfTruth
      ((registryByName registryEntries).map Prod.fst))) :=
    free_flatMap.mpr (fun _ _ => free_pushIf_of_not nofun _)
  rw [packageRegistryInvariant, free_append, free_append, free_conflicts_iff]
  exact ⟨fun h => h.1.1, fun h => ⟨⟨h, hmissing⟩, hunregistered⟩⟩

end Admissorium.Invariants.Registries
