import Admissorium.Cli.Audit
import Admissorium.Invariants.PackageSources
import Admissorium.Invariants.RepoClasses
import Admissorium.JavaScript.JsonParse

/-!
# The license registry and what becomes of its entries

`graph/loaders/licenses-loader` keeps the entries of a field `entries` that have five fields of
the right types, the audit keeps the last of those for each repository, and no finding is made
for the others. An entry that is lost goes unnoticed unless the audit has something else to say
about its repository (`nothingDropped_iff`).
-/
namespace Admissorium.Cli.LicenseRegistry
set_option autoImplicit false

open JavaScript Reports Findings Invariants.Registries Invariants.LicenseConsistency
open Invariants.PackageSources Invariants.RepoClasses

/-! ## The loader -/

/-- `isLicenseRegistryEntry`, with the two fields the audit reads. -/
def asLicenseRegistryEntry (value : Value) : Option LicenseRegistryEntry :=
  match value.get "repo", value.get "license", value.get "license_file_required",
      value.get "readme_license_required", value.get "package_json_license_required_if_present" with
  | .str repo, .str license, .bool _, .bool _, .bool _ => some { repo, license }
  | _, _, _, _, _ => none

/-- The entries of the content that have the shape of one. -/
def wellFormed (parsed : Value) : List LicenseRegistryEntry :=
  match parsed.get "entries" with
  | .arr items => items.filterMap asLicenseRegistryEntry
  | _ => []

def licensesPaths (root : String) : List String :=
  [Files.join [root, ".github", "governance", "LICENSES.json"],
    Files.join [root, "governance", "LICENSES.json"]]

/-- The registry that is there, and its text. -/
def licensesFile (disk : Disk) (root : String) : Option (String × String) :=
  (licensesPaths root).findSome? (fun path => (disk path).map (path, ·))

/-- `parse` is `JSON.parse`; `null` has no entries to ask for. -/
def loadLicenseRegistry (disk : Disk) (parse : String → Except JsError Value) (root : String) :
    Except JsError (RegistryLoad LicenseRegistryEntry) :=
  match licensesFile disk root with
  | none => .ok { entries := [], source := "LICENSES_REGISTRY_ABSENT", present := false }
  | some (path, text) => do
      let parsed ← parse text
      let _ ← parsed.prop "entries"
      .ok { entries := wellFormed parsed, source := path, present := true }

/-- The findings of a run that reads the license registry itself. -/
def auditFindings (rt : Runtime) (disk : Disk) (parse : String → Except JsError Value)
    (root : String) (loads : Loads) : Except JsError (List Finding) := do
  let licenseRegistry ← loadLicenseRegistry disk parse root
  mainFindings rt disk parse root { loads with licenseRegistry }

/-! ## What no run should lose -/

/-- What the content lists, in its field or as a whole. -/
def listedEntries : Value → List Value
  | .arr items => items
  | content =>
      match content.get "entries" with
      | .arr items => items
      | _ => []

/-- The entry obliges the repository to the license. -/
def Obliges (entry : Value) (repo license : String) : Prop :=
  entry.get "repo" = .str repo ∧ entry.get "license" = .str license

/-- The loop of the audit checks the repository against the license. -/
def Checked (registry : RegistryLoad LicenseRegistryEntry) (repo license : String) : Prop :=
  ∃ expected, licenseOf registry.entries repo = some expected ∧ expected.license = license

def AboutRegistry (path : String) (finding : Finding) : Prop :=
  finding.invariant = "one_license_truth" ∧ finding.surface = path

variable (rt : Runtime) (disk : Disk) (parse : String → Except JsError Value) (root : String)
  (loads : Loads)

/-- In every run that returns, an entry for a live repository is checked, or there is a finding
about the repository or about the registry. -/
def NothingDropped : Prop :=
  ∀ path text content registry findings, licensesFile disk root = some (path, text) →
    parse text = .ok content → loadLicenseRegistry disk parse root = .ok registry →
    auditFindings rt disk parse root loads = .ok findings →
    ∀ live ∈ loads.liveInventory, ∀ entry ∈ listedEntries content, ∀ license,
      Obliges entry live.repo license →
      Checked registry live.repo license ∨
        ∃ f ∈ findings, f.repo = live.repo ∨ AboutRegistry path f

/-! ## What else a run has to say about a repository -/

/-- The packages a run observes, where there is a registry to compare them with. -/
def observedPackages : Except JsError (List ObservedPackage) :=
  if loads.packageRegistry.present then do
    let packages ← loads.liveInventory.mapM (observedPackage disk parse)
    .ok (packages.filterMap id)
  else .ok []

/-- What is held against governance itself. -/
structure GovernanceMet (governedRepos : List String) : Prop where
  count : governedRepos.length = 35
  perimeter : ∀ repo, repo ∈ governedRepos ↔ repo ∈ loads.liveInventory.map LocalRepoInventory.repo
  classes : loads.repoClassRegistry.present = true → ∀ repo, repo ∈ governedRepos ↔
    repo ∈ loads.repoClassRegistry.entries.map RepoClassRegistryEntry.repo
  packages : loads.packageRegistry.present = true → OneSource loads.packageRegistry.entries

/-- The readme still names the license the repository had. -/
def StaleWording (repo license : String) (readmeText : Option String) : Prop :=
  repo = "Verifrax/AUCTORISEAL" ∧ license = "AGPL-3.0" ∧ ∃ readme,
    orElseText readmeText none = some readme ∧
      Text.includes readme "GNU General Public License v3.0" = true ∧
      Text.includes readme "GNU Affero General Public License v3.0" = false

/-- The files of a repository agree with a license. -/
structure LicenseMet (live : LocalRepoInventory) (license : String) : Prop where
  shown : LicenseShown rt (disk (Files.join [live.path, "LICENSE"])) license
  wording : ¬ StaleWording live.repo license (disk (Files.join [live.path, "README.md"]))

/-- The first source registered for a name. -/
def FirstSource (entries : List PackageRegistryEntry) (name source : String) : Prop :=
  (entries.filterMap registered).find? (fun entry => entry.1 = name) = some (name, source)

/-- The audit has something to say about a repository. -/
inductive Noticed (governedRepos : List String) (licenses : List LicenseRegistryEntry)
    (observed : List ObservedPackage) (repo : String) : Prop
  | governance : repo = "Verifrax/.github" → ¬ GovernanceMet loads governedRepos →
      Noticed governedRepos licenses observed repo
  | listedTwice : loads.repoClassRegistry.present = true →
      1 < (entriesOf repo loads.repoClassRegistry.entries).length →
      Noticed governedRepos licenses observed repo
  | role : loads.repoClassRegistry.present = true → repo = "Verifrax/ADMISSORIUM" →
      ¬ RoleKept loads.repoClassRegistry.entries → Noticed governedRepos licenses observed repo
  | license (live : LocalRepoInventory) (expected : LicenseRegistryEntry) :
      live ∈ loads.liveInventory → live.repo = repo → licenseOf licenses repo = some expected →
      ¬ LicenseMet rt disk live expected.license → Noticed governedRepos licenses observed repo
  | missing (name : String) : loads.packageRegistry.present = true →
      FirstSource loads.packageRegistry.entries name repo →
      name ∉ observed.map ObservedPackage.name → Noticed governedRepos licenses observed repo
  | unregistered (package : ObservedPackage) : loads.packageRegistry.present = true →
      package ∈ observed → package.repo = repo →
      (¬ ∃ source, Names loads.packageRegistry.entries package.name source) →
      Noticed governedRepos licenses observed repo

/-! ## Findings about a repository -/

def About (repo : String) (findings : List Finding) : Prop := ∃ f ∈ findings, f.repo = repo

section About
variable (repo : String)

theorem not_about_nil : ¬ About repo [] := fun h => nomatch h.choose_spec.1

theorem about_append (a b : List Finding) : About repo (a ++ b) ↔ About repo a ∨ About repo b :=
  exists_mem_append

theorem about_pushIf (failed : Bool) (finding : Finding) :
    About repo (pushIf failed finding) ↔ failed = true ∧ finding.repo = repo :=
  exists_mem_pushIf failed finding

theorem about_flatMap {α : Type} (items : List α) (f : α → List Finding) :
    About repo (items.flatMap f) ↔ ∃ item ∈ items, About repo (f item) :=
  exists_mem_flatMap

theorem about_perimeter (governedRepos observedRepos : List String) :
    About repo (repoPerimeterInvariant governedRepos observedRepos) ↔
      "Verifrax/.github" = repo ∧ ¬ ∀ name, name ∈ governedRepos ↔ name ∈ observedRepos := by
  rw [← sameMembers_iff, repoPerimeterInvariant]
  split
  · exact iff_of_false (not_about_nil repo) (fun h => h.2 ‹_›)
  · simp [About, *]

theorem about_duplicates (sourceOfTruth : String) (entries : List RepoClassRegistryEntry) :
    About repo ((Buckets.collect RepoClassRegistryEntry.repo entries).flatMap
      (duplicateFinding sourceOfTruth)) ↔ 1 < (entriesOf repo entries).length := by
  rw [about_flatMap]
  constructor
  · intro h
    obtain ⟨bucket, hbucket, habout⟩ := h
    obtain ⟨hmany, hrepo⟩ := (about_pushIf repo _ _).mp habout
    change bucket.1 = repo at hrepo
    subst hrepo
    rw [entriesOf, ← Buckets.mem_collect _ hbucket]
    exact of_decide_eq_true hmany
  · intro h
    obtain ⟨entry, hentry⟩ := List.exists_mem_of_length_pos (Nat.lt_of_succ_lt h)
    have hkey := (Buckets.mem_keys_collect RepoClassRegistryEntry.repo entries repo).mpr
      ⟨entry, List.mem_of_mem_filter hentry, of_decide_eq_true (List.mem_filter.mp hentry).2⟩
    obtain ⟨bucket, hbucket, rfl⟩ := List.mem_map.mp hkey
    refine ⟨bucket, hbucket, (about_pushIf _ _ _).mpr ⟨decide_eq_true ?_, rfl⟩⟩
    rw [Buckets.mem_collect _ hbucket]
    exact h

theorem about_roleFindings (sourceOfTruth : String) (entries : List RepoClassRegistryEntry) :
    About repo (roleFindings sourceOfTruth entries) ↔
      "Verifrax/ADMISSORIUM" = repo ∧ ¬ RoleKept entries := by
  rw [roleFindings, RoleKept]
  cases entries.find? (fun entry => entry.repo = "Verifrax/ADMISSORIUM") with
  | none =>
      apply iff_of_false (not_about_nil repo)
      rintro ⟨_, hkept⟩
      apply hkept
      intro _ hnone
      cases hnone
  | some admissorium =>
      apply (about_pushIf repo _ _).trans
      simp only [Option.some.injEq, forall_eq', Bool.not_eq_false]
      exact and_comm

theorem about_classes (governedRepos : List String) (entries : List RepoClassRegistryEntry)
    (sourceOfTruth : String) :
    About repo (repoClassRegistryInvariant governedRepos entries sourceOfTruth) ↔
      1 < (entriesOf repo entries).length ∨
      ("Verifrax/.github" = repo ∧ ¬ ∀ name, name ∈ governedRepos ↔
        name ∈ entries.map RepoClassRegistryEntry.repo) ∨
      ("Verifrax/ADMISSORIUM" = repo ∧ ¬ RoleKept entries) := by
  have hfailed : ∀ missing extra : List String,
      (decide (missing.length > 0) || decide (extra.length > 0)) = true ↔
        ¬ (missing = [] ∧ extra = []) := by
    intro missing extra
    cases missing <;> cases extra <;> simp
  rw [repoClassRegistryInvariant, about_append, about_append, about_duplicates, about_pushIf,
    about_roleFindings, hfailed, sameMembers_iff, or_assoc]
  refine or_congr_right (or_congr_left ?_)
  exact and_comm

/-- A bucket of the registry opens with the first source of its name. -/
theorem exists_firstSource {entries : List PackageRegistryEntry}
    {bucket : String × List (String × String)}
    (h : bucket ∈ Buckets.collect Prod.fst (entries.filterMap registered)) :
    ∃ source, FirstSource entries bucket.1 source ∧
      (bucket.2.map Prod.snd).head? = some source := by
  obtain ⟨entry, hentry, hname⟩ := (Buckets.mem_keys_collect Prod.fst (entries.filterMap registered)
    bucket.1).mp (List.mem_map_of_mem h)
  cases hfind : (entries.filterMap registered).find? (fun entry => entry.1 = bucket.1) with
  | none =>
      have hnone := List.find?_eq_none.mp hfind entry hentry
      exact absurd (decide_eq_true hname) hnone
  | some first =>
      have hfirst := List.find?_some hfind
      have heq : first = (bucket.1, first.2) := Prod.ext (of_decide_eq_true hfirst) rfl
      refine ⟨first.2, hfind.trans (congrArg some heq), ?_⟩
      rw [List.head?_map, Buckets.mem_collect _ h, List.head?_filter, hfind, Option.map_some]

theorem about_missing (entries : List PackageRegistryEntry) (observed : List ObservedPackage)
    (sourceOfTruth : String) :
    About repo ((registryByName entries).flatMap (missingFinding sourceOfTruth observed)) ↔
      ∃ name, FirstSource entries name repo ∧ name ∉ observed.map ObservedPackage.name := by
  rw [about_flatMap]
  simp only [missingFinding, about_pushIf, decide_eq_true_eq, packageFinding]
  constructor
  · intro h
    obtain ⟨bucket, hbucket, hname, hrepo⟩ := h
    obtain ⟨raw, hraw, rfl⟩ := List.mem_map.mp hbucket
    obtain ⟨source, hsource, hhead⟩ := exists_firstSource hraw
    rw [hhead, Option.getD_some] at hrepo
    exact ⟨raw.1, hrepo ▸ hsource, hname⟩
  · intro h
    obtain ⟨name, hsource, hname⟩ := h
    have hkey := (Buckets.mem_keys_collect Prod.fst (entries.filterMap registered) name).mpr
      ⟨(name, repo), List.mem_of_find?_eq_some hsource, rfl⟩
    obtain ⟨raw, hraw, rfl⟩ := List.mem_map.mp hkey
    obtain ⟨source, hsource', hhead⟩ := exists_firstSource hraw
    have heq := Option.some.inj (hsource.symm.trans hsource')
    rw [Prod.mk.injEq] at heq
    refine ⟨_, List.mem_map_of_mem hraw, hname, ?_⟩
    rw [hhead, Option.getD_some, heq.2]

theorem about_packages (entries : List PackageRegistryEntry) (observed : List ObservedPackage)
    (sourceOfTruth : String) :
    About repo (packageRegistryInvariant entries observed sourceOfTruth) ↔
      ("Verifrax/.github" = repo ∧ ¬ OneSource entries) ∨
      (∃ name, FirstSource entries name repo ∧ name ∉ observed.map ObservedPackage.name) ∨
      ∃ package ∈ observed, package.repo = repo ∧ ¬ ∃ source, Names entries package.name source := by
  have hconflicts : About repo ((registryByName entries).flatMap (conflictFinding sourceOfTruth)) ↔
      "Verifrax/.github" = repo ∧ ¬ OneSource entries := by
    rw [← conflicts_eq_nil_iff entries sourceOfTruth, List.flatMap_eq_nil_iff, about_flatMap]
    simp only [conflictFinding, about_pushIf, pushIf_eq_nil_iff, packageFinding, not_forall,
      Bool.not_eq_false]
    constructor
    · rintro ⟨bucket, hbucket, hmany, hrepo⟩
      exact ⟨hrepo, bucket, hbucket, hmany⟩
    · rintro ⟨hrepo, bucket, hbucket, hmany⟩
      exact ⟨bucket, hbucket, hmany, hrepo⟩
  have hunregistered : About repo (observed.flatMap (unregisteredFinding sourceOfTruth
      ((registryByName entries).map Prod.fst))) ↔
        ∃ package ∈ observed, package.repo = repo ∧
          ¬ ∃ source, Names entries package.name source := by
    rw [about_flatMap]
    refine exists_congr (fun package => and_congr_right (fun _ => ?_))
    rw [unregisteredFinding, about_pushIf, decide_eq_true_eq, mem_registryNames_iff]
    exact and_comm
  rw [packageRegistryInvariant, about_append, about_append, hconflicts, about_missing, hunregistered,
    or_assoc]

theorem about_wording (other license sourceOfTruth : String) (readmeText : Option String) :
    About repo (wordingFindings other readmeText license sourceOfTruth) ↔
      other = repo ∧ StaleWording other license readmeText := by
  rw [wordingFindings, StaleWording]
  cases orElseText readmeText none with
  | none =>
      apply iff_of_false (not_about_nil repo)
      rintro ⟨_, _, _, readme, hreadme, _⟩
      cases hreadme
  | some readme =>
      dsimp only
      split
      · simp [About, auctorisealWording, licenseFinding, *]
      · apply iff_of_false (not_about_nil repo)
        rintro ⟨_, hother, hlicense, text, htext, hgpl, hagpl⟩
        obtain rfl := Option.some.inj htext
        apply ‹¬ _›
        exact ⟨hother, hlicense, hgpl, hagpl⟩

end About

section Run
variable {rt : Runtime} {disk : Disk} {parse : String → Except JsError Value} {root : String}
  {loads : Loads}

theorem about_license (repo : String) (live : LocalRepoInventory) (license : String)
    (sourceOfTruth : Option String) :
    About repo (licenseConsistencyInvariant rt live.repo (disk (Files.join [live.path, "LICENSE"]))
      (disk (Files.join [live.path, "README.md"])) license sourceOfTruth) ↔
      live.repo = repo ∧ ¬ LicenseMet rt disk live license := by
  have hmet : LicenseMet rt disk live license ↔
      LicenseShown rt (disk (Files.join [live.path, "LICENSE"])) license ∧
        ¬ StaleWording live.repo license (disk (Files.join [live.path, "README.md"])) :=
    ⟨fun h => ⟨h.shown, h.wording⟩, fun h => ⟨h.1, h.2⟩⟩
  rw [hmet, licenseConsistencyInvariant, LicenseShown]
  cases orElseText (disk (Files.join [live.path, "LICENSE"])) none with
  | none => simp [About, missingLicense, licenseFinding]
  | some text =>
      change About repo (_ ++ _) ↔ _
      rw [about_append, about_wording]
      simp only [Option.some.injEq, exists_eq_left']
      cases showsLicense rt license text with
      | false => simp +contextual [About, licenseMismatch, licenseFinding]
      | true => simp [About]

theorem about_licenses (repo : String) (registry : RegistryLoad LicenseRegistryEntry) :
    About repo (loads.liveInventory.flatMap (licenseFindings rt disk registry)) ↔
      ∃ live ∈ loads.liveInventory, live.repo = repo ∧ ∃ expected,
        licenseOf registry.entries repo = some expected ∧ ¬ LicenseMet rt disk live expected.license := by
  rw [about_flatMap]
  refine exists_congr (fun live => and_congr_right (fun _ => ?_))
  unfold licenseFindings
  cases hof : licenseOf registry.entries live.repo with
  | none =>
      apply iff_of_false (not_about_nil repo)
      rintro ⟨rfl, expected, hexpected, _⟩
      rw [hof] at hexpected
      cases hexpected
  | some expected =>
      refine (about_license repo live _ _).trans (and_congr_right ?_)
      rintro rfl
      simp only [hof, Option.some.injEq, exists_eq_left']

/-- The findings of a run, part by part. -/
def allFindings (rt : Runtime) (disk : Disk) (governedRepos : GovernedReposLoad) (loads : Loads)
    (observed : List ObservedPackage) : List Finding :=
  repoPerimeterInvariant governedRepos.repos (loads.liveInventory.map LocalRepoInventory.repo) ++
    classFindings governedRepos.repos loads.repoClassRegistry ++
    loads.liveInventory.flatMap (licenseFindings rt disk loads.licenseRegistry) ++
    (if loads.packageRegistry.present then
      packageRegistryInvariant loads.packageRegistry.entries observed loads.packageRegistry.source
    else []) ++
    pushIf ((buildAcceptedGraph governedRepos.repos governedRepos.source).length ≠ 35)
      (countFinding governedRepos.source
        (buildAcceptedGraph governedRepos.repos governedRepos.source))

theorem mainFindings_eq_ok_iff (hlive : loads.liveInventory ≠ []) (findings : List Finding) :
    mainFindings rt disk parse root loads = .ok findings ↔
      ∃ observed, observedPackages disk parse loads = .ok observed ∧
        findings = allFindings rt disk (loadGovernedRepos disk root) loads observed := by
  have hlength : ¬ loads.liveInventory.length = 0 := fun h => hlive (List.length_eq_zero_iff.mp h)
  have hpackages : ∀ packages,
      packageFindings disk parse loads.packageRegistry loads.liveInventory = .ok packages ↔
        ∃ observed, observedPackages disk parse loads = .ok observed ∧ packages =
          if loads.packageRegistry.present then packageRegistryInvariant
            loads.packageRegistry.entries observed loads.packageRegistry.source else [] := by
    intro packages
    rw [packageFindings, observedPackages]
    by_cases hpresent : loads.packageRegistry.present = true
    · simp only [if_pos hpresent]
      constructor
      · intro h
        obtain ⟨read, hread, h⟩ := bind_eq_ok.mp h
        cases h
        exact ⟨_, bind_of_ok hread, rfl⟩
      · rintro ⟨observed, hobserved, rfl⟩
        obtain ⟨read, hread, h⟩ := bind_eq_ok.mp hobserved
        cases h
        exact bind_of_ok hread
    · simp only [if_neg hpresent]
      constructor
      · intro h
        cases h
        exact ⟨[], rfl, rfl⟩
      · rintro ⟨_, _, rfl⟩
        rfl
  rw [mainFindings, if_neg hlength]
  constructor
  · intro h
    obtain ⟨repositories, hrepositories, h⟩ := bind_eq_ok.mp h
    cases h
    obtain ⟨packages, hp, h⟩ := bind_eq_ok.mp hrepositories
    cases h
    obtain ⟨observed, hobserved, rfl⟩ := (hpackages packages).mp hp
    exact ⟨observed, hobserved, rfl⟩
  · rintro ⟨observed, hobserved, rfl⟩
    have hp := (hpackages _).mpr ⟨observed, hobserved, rfl⟩
    have hrepositories : repositoryFindings rt disk parse (loadGovernedRepos disk root).repos loads =
        .ok _ := bind_of_ok hp
    exact bind_of_ok hrepositories

/-- A run has findings about the repositories it notices. -/
theorem about_allFindings (governedRepos : GovernedReposLoad) (observed : List ObservedPackage)
    (repo : String) :
    About repo (allFindings rt disk governedRepos loads observed) ↔
      Noticed rt disk loads governedRepos.repos loads.licenseRegistry.entries observed repo := by
  have hclasses : About repo (classFindings governedRepos.repos loads.repoClassRegistry) ↔
      loads.repoClassRegistry.present = true ∧ About repo (repoClassRegistryInvariant
        governedRepos.repos loads.repoClassRegistry.entries loads.repoClassRegistry.source) := by
    unfold classFindings
    split
    · simp [*]
    · exact iff_of_false (not_about_nil repo) (fun h => ‹¬ _› h.1)
  have hpackages : About repo (if loads.packageRegistry.present then packageRegistryInvariant
      loads.packageRegistry.entries observed loads.packageRegistry.source else []) ↔
      loads.packageRegistry.present = true ∧ About repo (packageRegistryInvariant
        loads.packageRegistry.entries observed loads.packageRegistry.source) := by
    split
    · simp [*]
    · exact iff_of_false (not_about_nil repo) (fun h => ‹¬ _› h.1)
  rw [allFindings, about_append, about_append, about_append, about_append, about_perimeter, hclasses,
    about_licenses, hpackages, about_pushIf, about_classes, about_packages, decide_eq_true_eq,
    buildAcceptedGraph, List.length_map]
  constructor
  · intro h
    obtain (((⟨rfl, hperimeter⟩ | ⟨hpresent, hclass⟩) | ⟨live, hlive, hrepo, expected, hof, hmet⟩) |
      ⟨hpresent, hpackage⟩) | ⟨hcount, rfl⟩ := h
    · exact .governance rfl (fun hmet => hperimeter hmet.perimeter)
    · obtain htwice | ⟨rfl, hnames⟩ | ⟨rfl, hrole⟩ := hclass
      · exact .listedTwice hpresent htwice
      · exact .governance rfl (fun hmet => hnames (hmet.classes hpresent))
      · exact .role hpresent rfl hrole
    · exact .license live expected hlive hrepo hof hmet
    · obtain ⟨rfl, hone⟩ | ⟨name, hsource, hname⟩ | ⟨package, hpackage, hrepo, hname⟩ := hpackage
      · exact .governance rfl (fun hmet => hone (hmet.packages hpresent))
      · exact .missing name hpresent hsource hname
      · exact .unregistered package hpresent hpackage hrepo hname
    · exact .governance rfl (fun hmet => hcount hmet.count)
  · intro h
    cases h with
    | governance hrepo hnot =>
        by_contra hnone
        refine hnot ⟨?_, ?_, fun hpresent => ?_, fun hpresent => ?_⟩ <;> by_contra hne
        · exact hnone (Or.inr ⟨hne, hrepo.symm⟩)
        · exact hnone (Or.inl (Or.inl (Or.inl (Or.inl ⟨hrepo.symm, hne⟩))))
        · exact hnone (Or.inl (Or.inl (Or.inl
            (Or.inr ⟨hpresent, Or.inr (Or.inl ⟨hrepo.symm, hne⟩)⟩))))
        · exact hnone (Or.inl (Or.inr ⟨hpresent, Or.inl ⟨hrepo.symm, hne⟩⟩))
    | listedTwice hpresent htwice =>
        exact Or.inl (Or.inl (Or.inl (Or.inr ⟨hpresent, Or.inl htwice⟩)))
    | role hpresent hrepo hrole =>
        exact Or.inl (Or.inl (Or.inl (Or.inr ⟨hpresent, Or.inr (Or.inr ⟨hrepo.symm, hrole⟩)⟩)))
    | license live expected hlive hrepo hof hmet =>
        exact Or.inl (Or.inl (Or.inr ⟨live, hlive, hrepo, expected, hof, hmet⟩))
    | missing name hpresent hsource hname =>
        exact Or.inl (Or.inr ⟨hpresent, Or.inr (Or.inl ⟨name, hsource, hname⟩)⟩)
    | unregistered package hpresent hpackage hrepo hname =>
        exact Or.inl (Or.inr ⟨hpresent, Or.inr (Or.inr ⟨package, hpackage, hrepo, hname⟩)⟩)

/-! ## No finding is about the registry -/

def IsLicense (f : Finding) : Prop := f.invariant = "one_license_truth"

/-- The invariants of the other parts of a run. -/
def otherInvariants : List String :=
  ["governed_repo_perimeter_matches_materialization", "one_repo_one_class_registry_entry",
    "repo_class_registry_matches_governed_repos",
    "admissorium_is_admissibility_enforcement_not_truth", "one_package_one_source_repo",
    "package_registry_matches_materialized_packages", "no_orphan_surfaces"]

theorem not_isLicense {invariant : String} (hother : invariant ∈ otherInvariants) {f : Finding}
    (h : f.invariant = invariant) : ¬ IsLicense f := by
  have hall : ∀ invariant ∈ otherInvariants, invariant ≠ "one_license_truth" := by decide
  intro hlicense
  exact hall invariant hother (h.symm.trans hlicense)

theorem free_other (invariant : String) (hother : invariant ∈ otherInvariants) {failed : Bool}
    {f : Finding} (h : f.invariant = invariant) : Free IsLicense (pushIf failed f) :=
  free_pushIf_of_not (not_isLicense hother h) failed

theorem free_perimeter (governedRepos observedRepos : List String) :
    Free IsLicense (repoPerimeterInvariant governedRepos observedRepos) := by
  rw [repoPerimeterInvariant]
  split
  · exact free_nil
  · intro f hf
    rw [List.mem_singleton.mp hf]
    exact @not_isLicense "governed_repo_perimeter_matches_materialization" (by decide) _ rfl

theorem free_classes (governedRepos : List String) (registry : RegistryLoad RepoClassRegistryEntry) :
    Free IsLicense (classFindings governedRepos registry) := by
  unfold classFindings
  split
  · rw [repoClassRegistryInvariant, free_append, free_append]
    refine ⟨⟨free_flatMap.mpr (fun bucket _ => ?_), ?_⟩, ?_⟩
    · exact free_other "one_repo_one_class_registry_entry" (by decide) rfl
    · exact free_other "repo_class_registry_matches_governed_repos" (by decide) rfl
    · unfold roleFindings
      split
      · exact free_other "admissorium_is_admissibility_enforcement_not_truth" (by decide) rfl
      · exact free_nil
  · exact free_nil

theorem free_packages (entries : List PackageRegistryEntry) (observed : List ObservedPackage)
    (sourceOfTruth : String) :
    Free IsLicense (packageRegistryInvariant entries observed sourceOfTruth) := by
  rw [packageRegistryInvariant, free_append, free_append]
  refine ⟨⟨free_flatMap.mpr (fun bucket _ => ?_), free_flatMap.mpr (fun bucket _ => ?_)⟩,
    free_flatMap.mpr (fun package _ => ?_)⟩
  · exact free_other "one_package_one_source_repo" (by decide) rfl
  · exact free_other "package_registry_matches_materialized_packages" (by decide) rfl
  · exact free_other "package_registry_matches_materialized_packages" (by decide) rfl

/-- Findings of the license invariant are about a license file or a readme. -/
theorem surface_of_license {governedRepos : GovernedReposLoad} {observed : List ObservedPackage}
    {f : Finding} (h : f ∈ allFindings rt disk governedRepos loads observed) (hlicense : IsLicense f) :
    f.surface = "LICENSE" ∨ f.surface = "README.md" := by
  rw [allFindings, List.mem_append, List.mem_append, List.mem_append, List.mem_append] at h
  obtain (((hf | hf) | hf) | hf) | hf := h
  · exact absurd hlicense (free_perimeter _ _ f hf)
  · exact absurd hlicense (free_classes _ _ f hf)
  · obtain ⟨live, _, hf⟩ := List.mem_flatMap.mp hf
    rw [licenseFindings] at hf
    split at hf
    · cases hf
    · exact (license_finding hf).2
  · split at hf
    · exact absurd hlicense (free_packages _ _ _ f hf)
    · cases hf
  · exact absurd hlicense
      (free_other "no_orphan_surfaces" (by decide) rfl f hf)

/-- A path of the registry ends in the name of its file. -/
theorem licensesPaths_resolve {path : String} (h : path ∈ licensesPaths root) :
    ∃ place, Files.resolve [] path = "LICENSES.json" :: place := by
  have hname : Files.IsName "LICENSES.json" := by decide
  rw [licensesPaths, List.mem_cons, List.mem_singleton] at h
  obtain rfl | rfl := h
  · exact Files.resolve_join_concat [] [root, ".github", "governance"] hname
  · exact Files.resolve_join_concat [] [root, "governance"] hname

theorem not_aboutRegistry {governedRepos : GovernedReposLoad} {observed : List ObservedPackage}
    {path text : String} (hfile : licensesFile disk root = some (path, text)) {f : Finding}
    (h : f ∈ allFindings rt disk governedRepos loads observed) : ¬ AboutRegistry path f := by
  intro habout
  obtain ⟨hlicense, hsurface⟩ := habout
  obtain ⟨candidate, hcandidate, hread⟩ := List.exists_of_findSome?_eq_some hfile
  obtain ⟨_, _, hpair⟩ := Option.map_eq_some_iff.mp hread
  obtain ⟨rfl, _⟩ := Prod.mk.inj hpair
  obtain ⟨place, hplace⟩ := licensesPaths_resolve hcandidate
  rw [← hsurface] at hplace
  have hhead : (Files.resolve [] f.surface).head? = some "LICENSES.json" := by rw [hplace, List.head?_cons]
  have hsurfaces : ∀ surface ∈ ["LICENSE", "README.md"],
      (Files.resolve [] surface).head? ≠ some "LICENSES.json" := by decide
  refine hsurfaces f.surface ?_ hhead
  rw [List.mem_cons, List.mem_singleton]
  exact surface_of_license h hlicense

/-! ## What is lost -/

/-- Among the items of the field `entries`, the last that has the shape of an entry for the
repository has the license. -/
def LastKept (content : Value) (repo license : String) : Prop :=
  ∃ before entry after, content.get "entries" = .arr (before ++ entry :: after) ∧
    asLicenseRegistryEntry entry = some { repo, license } ∧
    ∀ later ∈ after, ∀ kept, asLicenseRegistryEntry later = some kept → kept.repo ≠ repo

/-- The map of the audit holds the last of the items it is given. -/
theorem licenseOf_filterMap_eq_some_iff (items : List Value) (repo : String)
    (expected : LicenseRegistryEntry) :
    licenseOf (items.filterMap asLicenseRegistryEntry) repo = some expected ↔
      expected.repo = repo ∧ ∃ before entry after, items = before ++ entry :: after ∧
        asLicenseRegistryEntry entry = some expected ∧
        ∀ later ∈ after, ∀ kept, asLicenseRegistryEntry later = some kept → kept.repo ≠ repo := by
  have hother : ∀ item, (!(asLicenseRegistryEntry item).any (fun entry => entry.repo = repo)) = true ↔
      ∀ kept, asLicenseRegistryEntry item = some kept → kept.repo ≠ repo := by
    intro item
    cases asLicenseRegistryEntry item <;> simp
  rw [licenseOf, ← List.filterMap_reverse, List.find?_filterMap, Option.bind_eq_some_iff]
  simp only [List.find?_eq_some_iff_append, hother]
  constructor
  · rintro ⟨entry, ⟨hentry, after, before, hitems, hafter⟩, hexpected⟩
    rw [hexpected] at hentry
    refine ⟨of_decide_eq_true hentry, before.reverse, entry, after.reverse, ?_, hexpected, ?_⟩
    · rw [← List.reverse_reverse items, hitems, List.reverse_append, List.reverse_cons,
        List.append_assoc, List.singleton_append]
    · exact fun later hlater => hafter later (List.mem_reverse.mp hlater)
  · rintro ⟨hrepo, before, entry, after, rfl, hexpected, hafter⟩
    refine ⟨entry, ⟨?_, after.reverse, before.reverse, ?_, ?_⟩, hexpected⟩
    · rw [hexpected]
      exact decide_eq_true hrepo
    · rw [List.reverse_append, List.reverse_cons, List.append_assoc, List.singleton_append]
    · exact fun later hlater => hafter later (List.mem_reverse.mp hlater)

/-- A run checks the license that was kept last. -/
theorem checked_iff_lastKept (content : Value) (path repo license : String) :
    Checked { entries := wellFormed content, source := path, present := true } repo license ↔
      LastKept content repo license := by
  rw [Checked, LastKept, wellFormed]
  cases hentries : content.get "entries" with
  | arr items =>
      simp only [licenseOf_filterMap_eq_some_iff, Value.arr.injEq]
      constructor
      · rintro ⟨expected, ⟨rfl, before, entry, after, hitems, hentry, hafter⟩, rfl⟩
        exact ⟨before, entry, after, hitems, hentry, hafter⟩
      · rintro ⟨before, entry, after, hitems, hentry, hafter⟩
        exact ⟨_, ⟨rfl, before, entry, after, hitems, hentry, hafter⟩, rfl⟩
  | _ =>
      refine iff_of_false ?_ ?_
      · rintro ⟨expected, hexpected, _⟩
        cases hexpected
      · rintro ⟨before, entry, after, hitems, _⟩
        cases hitems

/-- Every entry for a live repository is the last one kept for it, in its license at least, or
the audit has something to say about the repository. -/
def LossesNoticed (rt : Runtime) (disk : Disk) (parse : String → Except JsError Value)
    (root : String) (loads : Loads) : Prop :=
  ∀ path text content observed, licensesFile disk root = some (path, text) →
    parse text = .ok content → observedPackages disk parse loads = .ok observed →
    ∀ live ∈ loads.liveInventory, ∀ entry ∈ listedEntries content, ∀ license,
      Obliges entry live.repo license → LastKept content live.repo license ∨
        Noticed rt disk loads (loadGovernedRepos disk root).repos (wellFormed content) observed live.repo

/-- Content that lists anything is no `null`. -/
theorem loadLicenseRegistry_eq {path text : String} {content : Value}
    (hfile : licensesFile disk root = some (path, text)) (hparse : parse text = .ok content)
    {entry : Value} (hentry : entry ∈ listedEntries content) :
    loadLicenseRegistry disk parse root =
      .ok { entries := wellFormed content, source := path, present := true } := by
  obtain ⟨member, hmember⟩ : ∃ member, content.prop "entries" = .ok member := by
    rw [exists_prop_iff]
    constructor <;> rintro rfl <;> cases hentry
  rw [loadLicenseRegistry, hfile]
  exact (bind_of_ok hparse).trans (bind_of_ok hmember)

/-- Reading the license registry gives a run its entries and nothing else. -/
theorem auditFindings_eq_ok_iff (hlive : loads.liveInventory ≠ [])
    {registry : RegistryLoad LicenseRegistryEntry}
    (hload : loadLicenseRegistry disk parse root = .ok registry) (findings : List Finding) :
    auditFindings rt disk parse root loads = .ok findings ↔
      ∃ observed, observedPackages disk parse loads = .ok observed ∧
        findings = allFindings rt disk (loadGovernedRepos disk root)
          { loads with licenseRegistry := registry } observed := by
  have hrun : auditFindings rt disk parse root loads =
      mainFindings rt disk parse root { loads with licenseRegistry := registry } := bind_of_ok hload
  rw [hrun]
  exact mainFindings_eq_ok_iff (by exact hlive) findings

/-- What is noticed does not depend on the license registry a run was given. -/
theorem Noticed.with_registry {governedRepos : List String} {licenses : List LicenseRegistryEntry}
    {observed : List ObservedPackage} {repo : String}
    (h : Noticed rt disk loads governedRepos licenses observed repo)
    (registry : RegistryLoad LicenseRegistryEntry) :
    Noticed rt disk { loads with licenseRegistry := registry } governedRepos licenses observed repo := by
  cases h with
  | governance hrepo hnot =>
      apply Noticed.governance hrepo
      intro hmet
      exact hnot ⟨hmet.count, hmet.perimeter, hmet.classes, hmet.packages⟩
  | listedTwice hpresent htwice => exact .listedTwice hpresent htwice
  | role hpresent hrepo hrole => exact .role hpresent hrepo hrole
  | license live expected hlive hrepo hof hnot => exact .license live expected hlive hrepo hof hnot
  | missing name hpresent hsource hname => exact .missing name hpresent hsource hname
  | unregistered package hpresent hpackage hrepo hname =>
      exact .unregistered package hpresent hpackage hrepo hname

/-- No obligation is dropped silently exactly when every loss is noticed. -/
theorem nothingDropped_iff (rt : Runtime) (disk : Disk) (parse : String → Except JsError Value)
    (root : String) (loads : Loads) :
    NothingDropped rt disk parse root loads ↔ LossesNoticed rt disk parse root loads := by
  constructor
  · intro h path text content observed hfile hparse hobserved live hlive entry hentry license hobliges
    have hload := loadLicenseRegistry_eq hfile hparse hentry
    have hrun : auditFindings rt disk parse root loads = .ok (allFindings rt disk
        (loadGovernedRepos disk root) { loads with licenseRegistry := _ } observed) :=
      (auditFindings_eq_ok_iff (List.ne_nil_of_mem hlive) hload _).mpr ⟨observed, hobserved, rfl⟩
    obtain hchecked | ⟨f, hf, hrepo | habout⟩ :=
      h path text content _ _ hfile hparse hload hrun live hlive entry hentry license hobliges
    · exact Or.inl ((checked_iff_lastKept content path live.repo license).mp hchecked)
    · have hnoticed := (about_allFindings _ observed live.repo).mp ⟨f, hf, hrepo⟩
      exact Or.inr (hnoticed.with_registry loads.licenseRegistry)
    · exact absurd habout (not_aboutRegistry hfile hf)
  · intro h path text content registry findings hfile hparse hload hrun live hlive entry hentry
      license hobliges
    rw [loadLicenseRegistry_eq hfile hparse hentry] at hload
    cases hload
    obtain ⟨observed, hobserved, rfl⟩ := (auditFindings_eq_ok_iff (List.ne_nil_of_mem hlive)
      (loadLicenseRegistry_eq hfile hparse hentry) _).mp hrun
    obtain hkept | hnoticed :=
      h path text content observed hfile hparse hobserved live hlive entry hentry license hobliges
    · exact Or.inl ((checked_iff_lastKept content path live.repo license).mpr hkept)
    · obtain ⟨f, hf, hrepo⟩ := (about_allFindings (loadGovernedRepos disk root) observed
        live.repo).mpr (hnoticed.with_registry { entries := wellFormed content, source := path
                                                 present := true })
      exact Or.inr ⟨f, hf, Or.inl hrepo⟩

end Run

/-! ## A clean run over a dropped entry -/

/-- A registry whose only entry does not say which files are required. -/
def unflagged : Value :=
  .obj [("entries", .arr [.obj [("repo", .str "Verifrax/VERIFRAX"), ("license", .str "Apache-2.0")]])]

def unflaggedText : String :=
  "\x7b\"entries\":[\x7b\"repo\":\"Verifrax/VERIFRAX\",\"license\":\"Apache-2.0\"\x7d]\x7d"

def unflaggedDisk : Disk := fun path =>
  if path = "../.github/governance/LICENSES.json" then some unflaggedText else none

/-- The loader keeps nothing of it. -/
def unflaggedLoad : RegistryLoad LicenseRegistryEntry where
  entries := []
  source := "../.github/governance/LICENSES.json"
  present := true

/-- With every governed repository on disk nothing is found, and the license is never checked. -/
theorem unflagged_dropped :
    ¬ NothingDropped Runtime.ascii unflaggedDisk (Json.parse (fun _ => none)) "../"
      (loadsOf BOOTSTRAP_GOVERNED_REPOS_35) := by
  have hfile : licensesFile unflaggedDisk "../" =
      some ("../.github/governance/LICENSES.json", unflaggedText) := by decide +kernel
  have hparse : Json.parse (fun _ => none) unflaggedText = .ok unflagged := rfl
  have hload : loadLicenseRegistry unflaggedDisk (Json.parse (fun _ => none)) "../" =
      .ok unflaggedLoad :=
    loadLicenseRegistry_eq hfile hparse (List.mem_singleton.mpr rfl)
  have hclean : allFindings Runtime.ascii unflaggedDisk (loadGovernedRepos unflaggedDisk "../")
      { loadsOf BOOTSTRAP_GOVERNED_REPOS_35 with licenseRegistry := unflaggedLoad } [] = [] :=
    List.isEmpty_iff.mp (by decide +kernel)
  have hrun : auditFindings Runtime.ascii unflaggedDisk (Json.parse (fun _ => none)) "../"
      (loadsOf BOOTSTRAP_GOVERNED_REPOS_35) = .ok [] :=
    (auditFindings_eq_ok_iff (by decide) hload _).mpr ⟨[], rfl, hclean.symm⟩
  have hgoverned : "Verifrax/VERIFRAX" ∈ BOOTSTRAP_GOVERNED_REPOS_35 := by decide
  intro h
  obtain ⟨_, hof, _⟩ | ⟨_, hf, _⟩ := h _ _ _ _ [] hfile hparse hload hrun _
    (List.mem_map_of_mem hgoverned) _ (List.mem_singleton.mpr rfl) "Apache-2.0" ⟨rfl, rfl⟩
  · cases hof
  · cases hf

end Admissorium.Cli.LicenseRegistry
