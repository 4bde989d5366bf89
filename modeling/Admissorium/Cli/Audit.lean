import Admissorium.Files.Paths
import Admissorium.Invariants.LicenseConsistency
import Admissorium.Invariants.Registries

/-!
# The audit of several repositories

`cli/admissorium` reads the list of governed repositories and compares it with the repositories
on disk and with the registries of governance. The comparison with the disk is one of sets and
the count is one of lines, so a repeated name can stand in for a missing one.
-/
namespace Admissorium.Cli
set_option autoImplicit false

open JavaScript Reports Findings Invariants.Registries Invariants.LicenseConsistency

/-- The text of each file, by its path. -/
abbrev Disk := String → Option String

/-! ## The governed repositories -/

def BOOTSTRAP_GOVERNED_REPOS_35 : List String :=
  ["Verifrax/.github", "Verifrax/ADMISSORIUM", "Verifrax/ANAGNORIUM", "Verifrax/ARCHITECTURE",
    "Verifrax/AUCTORISEAL", "Verifrax/CONSONORIUM", "Verifrax/CORPIFORM", "Verifrax/ORBISTIUM",
    "Verifrax/REGRESSORIUM", "Verifrax/SIGILLARIUM", "Verifrax/SPEEDKIT", "Verifrax/SYNTAGMARIUM",
    "Verifrax/TACHYRIUM", "Verifrax/VERIFRAX", "Verifrax/VERIFRAX-API", "Verifrax/VERIFRAX-DOCS",
    "Verifrax/VERIFRAX-PROFILES", "Verifrax/VERIFRAX-SAMPLES", "Verifrax/VERIFRAX-SPEC",
    "Verifrax/VERIFRAX-STATUS", "Verifrax/VERIFRAX-SURFACE", "Verifrax/VERIFRAX-WWW",
    "Verifrax/VERIFRAX-verify", "Verifrax/apply", "Verifrax/archicustos", "Verifrax/attestorium",
    "Verifrax/cicullis", "Verifrax/guillotine", "Verifrax/irrevocull", "Verifrax/kairoclasp",
    "Verifrax/limenward", "Verifrax/originseal", "Verifrax/proof", "Verifrax/validexor",
    "Verifrax/verifrax-marketplace-smoke"]

/-- `text.split(/\r?\n/)`. -/
def splitLines : List Char → List (List Char)
  | [] => [[]]
  | '\r' :: '\n' :: rest => [] :: splitLines rest
  | '\n' :: rest => [] :: splitLines rest
  | c :: rest => (splitLines rest).modifyHead (c :: ·)

def parseGovernedRepos (text : String) : List String :=
  (((splitLines text.toList).map (fun line => Text.trim (String.ofList line))).filter
    (fun line => Text.length line > 0)).filter (fun line => !Text.startsWith line "#")

theorem splitLines_append {line : List Char} (h : ∀ c ∈ line, c ≠ '\r' ∧ c ≠ '\n')
    (rest : List Char) : splitLines (line ++ '\n' :: rest) = line :: splitLines rest := by
  induction line with
  | nil => rw [List.nil_append, splitLines]
  | cons c line ih =>
      obtain ⟨⟨hcr, hlf⟩, hline⟩ := List.forall_mem_cons.mp h
      rw [List.cons_append, splitLines, ih hline]
      · rfl
      · exact fun _ hc _ => hcr hc
      · exact hlf

theorem splitLines_singleton {line : List Char} (h : ∀ c ∈ line, c ≠ '\r' ∧ c ≠ '\n') :
    splitLines line = [line] := by
  induction line with
  | nil => rfl
  | cons c line ih =>
      obtain ⟨⟨hcr, hlf⟩, hline⟩ := List.forall_mem_cons.mp h
      rw [splitLines, ih hline]
      · rfl
      · exact fun _ hc _ => hcr hc
      · exact hlf

/-- A line that is a name and nothing else. -/
structure IsLine (line : String) : Prop where
  unbroken : ∀ c ∈ line.toList, c ≠ '\r' ∧ c ≠ '\n'
  trimmed : Text.trim line = line
  nonempty : Text.length line > 0
  named : Text.startsWith line "#" = false

theorem splitLines_intercalate {lines : List String} (hne : lines ≠ [])
    (h : ∀ line ∈ lines, IsLine line) :
    splitLines ("\n".intercalate lines).toList = lines.map String.toList := by
  induction lines with
  | nil => exact absurd rfl hne
  | cons line rest ih =>
      obtain ⟨hline, hrest⟩ := List.forall_mem_cons.mp h
      cases rest with
      | nil =>
          rw [String.intercalate_singleton, splitLines_singleton hline.unbroken]
          rfl
      | cons next rest =>
          have hlist : ("\n".intercalate (line :: next :: rest)).toList =
              line.toList ++ '\n' :: ("\n".intercalate (next :: rest)).toList := by
            rw [String.intercalate_cons_cons, String.toList_append, String.toList_append,
              List.append_assoc]
            rfl
          rw [hlist, splitLines_append hline.unbroken, ih (List.cons_ne_nil _ _) hrest]
          rfl

/-- Names on lines of their own are read as they stand. -/
theorem parseGovernedRepos_lines {lines : List String} (hne : lines ≠ [])
    (h : ∀ line ∈ lines, IsLine line) : parseGovernedRepos ("\n".intercalate lines) = lines := by
  have htrim : (lines.map String.toList).map (fun line => Text.trim (String.ofList line)) =
      lines := by
    rw [List.map_map]
    refine (List.map_congr_left fun line hline => ?_).trans (List.map_id lines)
    rw [Function.comp, String.ofList_toList]
    exact (h line hline).trimmed
  rw [parseGovernedRepos, splitLines_intercalate hne h, htrim]
  rw [List.filter_eq_self.mpr fun line hline => decide_eq_true (h line hline).nonempty]
  refine List.filter_eq_self.mpr fun line hline => ?_
  rw [(h line hline).named]
  rfl

structure GovernedReposLoad where
  repos : List String
  source : String
  used_bootstrap : Bool

def governedReposPaths (root : String) : List String :=
  [Files.join [root, ".github", "governance", "GOVERNED_REPOS.txt"],
    Files.join [root, "governance", "GOVERNED_REPOS.txt"]]

def loadGovernedRepos (disk : Disk) (root : String) : GovernedReposLoad :=
  match (governedReposPaths root).findSome? (fun path => (disk path).map (path, ·)) with
  | some (path, text) =>
      { repos := parseGovernedRepos text, source := path, used_bootstrap := false }
  | none =>
      { repos := BOOTSTRAP_GOVERNED_REPOS_35
        source := "BOOTSTRAP_GOVERNED_REPOS_35"
        used_bootstrap := true }

theorem repos_eq_of_found {disk : Disk} {root path text : String} (h : (governedReposPaths
    root).findSome? (fun path => (disk path).map (path, ·)) = some (path, text)) :
    (loadGovernedRepos disk root).repos = parseGovernedRepos text := by
  rw [loadGovernedRepos, h]

structure GraphNode where
  id : String
  type : String
  status : String
  owner_repo : String
  source_of_truth : String
  may_autofix : Bool
  admissibility : AdmissibilityVerdict
  expected_perimeter_count_after_admissorium : Number

def buildAcceptedGraph (governedRepos : List String) (sourceOfTruth : String) : List GraphNode :=
  governedRepos.map (fun repo =>
    { id := repo
      type := "Repo"
      status := if repo = "Verifrax/ADMISSORIUM" then "DERIVED_PROJECTION" else "ACTIVE_TRUTH"
      owner_repo := repo
      source_of_truth := sourceOfTruth
      may_autofix := false
      admissibility :=
        if repo = "Verifrax/ADMISSORIUM" then .requiresAcceptanceAct else .admissible
      expected_perimeter_count_after_admissorium := 35 })

/-! ## The findings of a run -/

/-- What was read of a registry, and whether there was one. -/
structure RegistryLoad (α : Type) where
  entries : List α
  source : String
  present : Bool

structure LicenseRegistryEntry where
  repo : String
  license : String

structure LocalRepoInventory where
  repo : String
  path : String

/-- What a run reads besides the governed list. -/
structure Loads where
  licenseRegistry : RegistryLoad LicenseRegistryEntry
  packageRegistry : RegistryLoad PackageRegistryEntry
  repoClassRegistry : RegistryLoad RepoClassRegistryEntry
  liveInventory : List LocalRepoInventory

/-- `licensesByRepo.get(repo)`, where a later entry replaces an earlier one. -/
def licenseOf (entries : List LicenseRegistryEntry) (repo : String) : Option LicenseRegistryEntry :=
  entries.reverse.find? (fun entry => entry.repo = repo)

def licenseFindings (rt : Runtime) (disk : Disk) (registry : RegistryLoad LicenseRegistryEntry)
    (entry : LocalRepoInventory) : List Finding :=
  match licenseOf registry.entries entry.repo with
  | none => []
  | some expected =>
      licenseConsistencyInvariant rt entry.repo (disk (Files.join [entry.path, "LICENSE"]))
        (disk (Files.join [entry.path, "README.md"])) expected.license registry.source

/-- The package a repository declares; `parse` is `JSON.parse`. -/
def observedPackage (disk : Disk) (parse : String → Except JsError Value)
    (entry : LocalRepoInventory) : Except JsError (Option ObservedPackage) :=
  match disk (Files.join [entry.path, "package.json"]) with
  | none => .ok none
  | some text => do
      match (← (← parse text).prop "name") with
      | .str name =>
          .ok (if Text.length name = 0 then none
            else some { repo := entry.repo, name, path := entry.repo ++ ":package.json" })
      | _ => .ok none

def packageFindings (disk : Disk) (parse : String → Except JsError Value)
    (registry : RegistryLoad PackageRegistryEntry) (liveInventory : List LocalRepoInventory) :
    Except JsError (List Finding) :=
  if registry.present then do
    let observedPackages ← liveInventory.mapM (observedPackage disk parse)
    .ok (packageRegistryInvariant registry.entries (observedPackages.filterMap id) registry.source)
  else .ok []

def classFindings (governedRepos : List String) (registry : RegistryLoad RepoClassRegistryEntry) :
    List Finding :=
  if registry.present then
    repoClassRegistryInvariant governedRepos registry.entries registry.source
  else []

def repositoryFindings (rt : Runtime) (disk : Disk) (parse : String → Except JsError Value)
    (governedRepos : List String) (loads : Loads) : Except JsError (List Finding) := do
  let packages ← packageFindings disk parse loads.packageRegistry loads.liveInventory
  .ok (repoPerimeterInvariant governedRepos (loads.liveInventory.map LocalRepoInventory.repo) ++
    classFindings governedRepos loads.repoClassRegistry ++
    loads.liveInventory.flatMap (licenseFindings rt disk loads.licenseRegistry) ++ packages)

def countFinding (source : String) (acceptedGraph : List GraphNode) : Finding where
  finding_id := "RED-GOVERNED-REPO-COUNT"
  severity := .red
  repo := "Verifrax/.github"
  surface := source
  invariant := "no_orphan_surfaces"
  expected := .num 35
  observed := .num (acceptedGraph.length : Nat)
  source_of_truth := source
  autofix_allowed := false
  recommended_action := "Align governed repository registry through governance review."

/-- The findings `main` reports. Without a repository on disk there is nothing to compare. -/
def mainFindings (rt : Runtime) (disk : Disk) (parse : String → Except JsError Value)
    (root : String) (loads : Loads) : Except JsError (List Finding) := do
  let governedRepos := loadGovernedRepos disk root
  let acceptedGraph := buildAcceptedGraph governedRepos.repos governedRepos.source
  let repositories ←
    if loads.liveInventory.length = 0 then .ok []
    else repositoryFindings rt disk parse governedRepos.repos loads
  .ok (repositories ++
    pushIf (acceptedGraph.length ≠ 35) (countFinding governedRepos.source acceptedGraph))

/-! ## What a clean audit says -/

/-- Whenever the run reports nothing red, the governed names are 35 different ones and the names
on disk. -/
def ExactPerimeter (rt : Runtime) (disk : Disk) (parse : String → Except JsError Value)
    (root : String) (loads : Loads) : Prop :=
  ∀ findings, mainFindings rt disk parse root loads = .ok findings → Free IsRed findings →
    (loadGovernedRepos disk root).repos.length = 35 ∧ (loadGovernedRepos disk root).repos.Nodup ∧
      ∀ repo, repo ∈ (loadGovernedRepos disk root).repos ↔
        repo ∈ loads.liveInventory.map LocalRepoInventory.repo

/-- The package file of a repository, where there is one, is JSON other than `null`. -/
def Readable (disk : Disk) (parse : String → Except JsError Value) (entry : LocalRepoInventory) :
    Prop :=
  ∀ text, disk (Files.join [entry.path, "package.json"]) = some text →
    ∃ value, parse text = .ok value ∧ value ≠ .null ∧ value ≠ .undefined

/-- What the governed list, the registries and the disk must be for nothing red to be found. -/
structure CleanAudit (disk : Disk) (parse : String → Except JsError Value)
    (governedRepos : List String) (loads : Loads) : Prop where
  count : governedRepos.length = 35
  perimeter : ∀ repo, repo ∈ governedRepos ↔ repo ∈ loads.liveInventory.map LocalRepoInventory.repo
  classes : loads.repoClassRegistry.present = true →
    ClassesMet governedRepos loads.repoClassRegistry.entries
  packages : loads.packageRegistry.present = true → OneSource loads.packageRegistry.entries
  readable : loads.packageRegistry.present = true →
    ∀ entry ∈ loads.liveInventory, Readable disk parse entry

section Run
variable {rt : Runtime} {disk : Disk} {parse : String → Except JsError Value}

theorem exists_prop_iff (value : Value) (key : String) :
    (∃ member, value.prop key = .ok member) ↔ value ≠ .null ∧ value ≠ .undefined := by
  cases value <;> simp [Value.prop]

theorem exists_observedPackage_iff (entry : LocalRepoInventory) :
    (∃ package, observedPackage disk parse entry = .ok package) ↔ Readable disk parse entry := by
  rw [observedPackage, Readable]
  cases disk (Files.join [entry.path, "package.json"]) with
  | none => exact iff_of_true ⟨none, rfl⟩ nofun
  | some text =>
      constructor
      · intro hcase _ he
        obtain ⟨package, h⟩ := hcase
        cases he
        obtain ⟨value, hvalue, h⟩ := bind_eq_ok.mp h
        obtain ⟨name, hname, _⟩ := bind_eq_ok.mp h
        exact ⟨value, hvalue, (exists_prop_iff value "name").mp ⟨name, hname⟩⟩
      · intro h
        obtain ⟨value, hvalue, hprop⟩ := h text rfl
        obtain ⟨name, hname⟩ := (exists_prop_iff value "name").mpr hprop
        refine exists_bind_ok hvalue (exists_bind_ok hname ?_)
        cases name <;> exact ⟨_, rfl⟩

theorem free_packageFindings_iff (registry : RegistryLoad PackageRegistryEntry)
    (liveInventory : List LocalRepoInventory) :
    (∃ findings, packageFindings disk parse registry liveInventory = .ok findings ∧
      Free IsRed findings) ↔
      (registry.present = true → OneSource registry.entries) ∧
        (registry.present = true → ∀ entry ∈ liveInventory, Readable disk parse entry) := by
  unfold packageFindings
  by_cases hpresent : registry.present = true
  · rw [if_pos hpresent]
    simp only [hpresent, forall_const, ← exists_observedPackage_iff]
    rw [← exists_mapM_eq_ok_iff]
    constructor
    · intro hcase
      obtain ⟨findings, h, hfree⟩ := hcase
      obtain ⟨observed, hobserved, h⟩ := bind_eq_ok.mp h
      cases h
      exact ⟨(free_packageRegistry_iff _ _ _).mp hfree, observed, hobserved⟩
    · intro hcase
      obtain ⟨hone, observed, hobserved⟩ := hcase
      refine ⟨_, bind_of_ok hobserved, (free_packageRegistry_iff _ _ _).mpr hone⟩
  · rw [if_neg hpresent]
    exact iff_of_true ⟨[], rfl, free_nil⟩ ⟨fun h => absurd h hpresent, fun h => absurd h hpresent⟩

theorem free_classFindings_iff (governedRepos : List String)
    (registry : RegistryLoad RepoClassRegistryEntry) :
    Free IsRed (classFindings governedRepos registry) ↔
      (registry.present = true → ClassesMet governedRepos registry.entries) := by
  unfold classFindings
  by_cases hpresent : registry.present = true
  · rw [if_pos hpresent, free_repoClassRegistry_iff]
    exact ⟨fun h _ => h, fun h => h hpresent⟩
  · rw [if_neg hpresent]
    exact iff_of_true free_nil (fun h => absurd h hpresent)

theorem free_licenseFindings (registry : RegistryLoad LicenseRegistryEntry)
    (entry : LocalRepoInventory) : Free IsRed (licenseFindings rt disk registry entry) := by
  intro finding h hred
  unfold licenseFindings at h
  cases hof : licenseOf registry.entries entry.repo with
  | none =>
      rw [hof] at h
      cases h
  | some expected =>
      rw [hof] at h
      have hyellow := license_severity h
      rw [IsRed, hyellow] at hred
      cases hred

theorem free_repositoryFindings_iff (governedRepos : List String) (loads : Loads) :
    (∃ findings, repositoryFindings rt disk parse governedRepos loads = .ok findings ∧
      Free IsRed findings) ↔
      (∀ repo, repo ∈ governedRepos ↔ repo ∈ loads.liveInventory.map LocalRepoInventory.repo) ∧
        Free IsRed (classFindings governedRepos loads.repoClassRegistry) ∧
        ∃ findings, packageFindings disk parse loads.packageRegistry loads.liveInventory =
          .ok findings ∧ Free IsRed findings := by
  have hlicenses : Free IsRed
      (loads.liveInventory.flatMap (licenseFindings rt disk loads.licenseRegistry)) :=
    free_flatMap.mpr (fun entry _ => free_licenseFindings _ entry)
  constructor
  · intro hcase
    obtain ⟨findings, h, hfree⟩ := hcase
    obtain ⟨packages, hpackages, h⟩ := bind_eq_ok.mp h
    cases h
    rw [free_append, free_append, free_append, free_repoPerimeter_iff] at hfree
    exact ⟨hfree.1.1.1, hfree.1.1.2, packages, hpackages, hfree.2⟩
  · intro hcase
    obtain ⟨hperimeter, hclasses, packages, hpackages, hfree⟩ := hcase
    refine ⟨_, bind_of_ok hpackages, ?_⟩
    rw [free_append, free_append, free_append, free_repoPerimeter_iff]
    exact ⟨⟨⟨hperimeter, hclasses⟩, hlicenses⟩, hfree⟩

theorem free_countFinding_iff (governedRepos : List String) (source : String) :
    Free IsRed (pushIf ((buildAcceptedGraph governedRepos source).length ≠ 35)
      (countFinding source (buildAcceptedGraph governedRepos source))) ↔
      governedRepos.length = 35 := by
  refine (free_pushIf ?_ _).trans ?_
  · rfl
  · rw [decide_eq_false_iff_not, not_not, buildAcceptedGraph, List.length_map]

/-- The run returns with nothing red exactly when the audit is clean. -/
theorem free_mainFindings_iff {root : String} {loads : Loads} (hlive : loads.liveInventory ≠ []) :
    (∃ findings, mainFindings rt disk parse root loads = .ok findings ∧ Free IsRed findings) ↔
      CleanAudit disk parse (loadGovernedRepos disk root).repos loads := by
  have hlength : ¬ loads.liveInventory.length = 0 := fun h => hlive (List.length_eq_zero_iff.mp h)
  have hparts : (∃ findings, mainFindings rt disk parse root loads = .ok findings ∧
      Free IsRed findings) ↔
      (∃ findings, repositoryFindings rt disk parse (loadGovernedRepos disk root).repos loads =
        .ok findings ∧ Free IsRed findings) ∧ (loadGovernedRepos disk root).repos.length = 35 := by
    rw [← free_countFinding_iff _ (loadGovernedRepos disk root).source, mainFindings,
      if_neg hlength]
    constructor
    · intro hcase
      obtain ⟨findings, h, hfree⟩ := hcase
      obtain ⟨repositories, hrepositories, h⟩ := bind_eq_ok.mp h
      cases h
      rw [free_append] at hfree
      exact ⟨⟨repositories, hrepositories, hfree.1⟩, hfree.2⟩
    · intro hcase
      obtain ⟨⟨repositories, hrepositories, hfree⟩, hcount⟩ := hcase
      exact ⟨_, bind_of_ok hrepositories, free_append.mpr ⟨hfree, hcount⟩⟩
  rw [hparts, free_repositoryFindings_iff, free_classFindings_iff, free_packageFindings_iff]
  constructor
  · intro hcase
    obtain ⟨⟨hperimeter, hclasses, hpackages, hreadable⟩, hcount⟩ := hcase
    exact ⟨hcount, hperimeter, hclasses, hpackages, hreadable⟩
  · intro h
    exact ⟨⟨h.perimeter, h.classes, h.packages, h.readable⟩, h.count⟩

end Run

/-- A clean audit is an exact perimeter unless a governed name is listed twice: the comparison
with the disk is one of sets, and the count is one of lines. -/
theorem exactPerimeter_iff (rt : Runtime) (disk : Disk) (parse : String → Except JsError Value)
    (root : String) (loads : Loads) (hlive : loads.liveInventory ≠ []) :
    ExactPerimeter rt disk parse root loads ↔
      (loadGovernedRepos disk root).repos.Nodup ∨
        ¬ CleanAudit disk parse (loadGovernedRepos disk root).repos loads := by
  constructor
  · intro h
    by_cases hclean : CleanAudit disk parse (loadGovernedRepos disk root).repos loads
    · obtain ⟨findings, hmain, hfree⟩ : ∃ findings, mainFindings rt disk parse root loads =
          .ok findings ∧ Free IsRed findings := (free_mainFindings_iff hlive).mpr hclean
      exact Or.inl (h findings hmain hfree).2.1
    · exact Or.inr hclean
  · intro h findings hmain hfree
    have hclean := (free_mainFindings_iff hlive).mp ⟨findings, hmain, hfree⟩
    exact ⟨hclean.count, h.resolve_right (fun hn => hn hclean), hclean.perimeter⟩

/-- A governed list of 35 lines that all name one repository. -/
def repeatedName : List String := List.replicate 35 "Verifrax/proof"

def repeatedDisk : Disk := fun path =>
  if path = "../.github/governance/GOVERNED_REPOS.txt" then some ("\n".intercalate repeatedName)
  else none

def absentRegistry (α : Type) (source : String) : RegistryLoad α := ⟨[], source, false⟩

/-- Repositories on disk, and no registry. -/
def loadsOf (repos : List String) : Loads where
  licenseRegistry := absentRegistry _ "LICENSES_REGISTRY_ABSENT"
  packageRegistry := absentRegistry _ "PACKAGES_REGISTRY_ABSENT"
  repoClassRegistry := absentRegistry _ "REPO_CLASSES_REGISTRY_ABSENT"
  liveInventory := repos.map (fun repo => ⟨repo, "../" ++ repo⟩)

theorem repeated_repos : (loadGovernedRepos repeatedDisk "../").repos = repeatedName := by
  have hpath : (governedReposPaths "../").findSome? (fun path => (repeatedDisk path).map (path, ·)) =
      some ("../.github/governance/GOVERNED_REPOS.txt", "\n".intercalate repeatedName) := by
    decide +kernel
  have hline : IsLine "Verifrax/proof" := ⟨by decide, by decide, by decide, by decide⟩
  apply (repos_eq_of_found hpath).trans
  refine parseGovernedRepos_lines (List.cons_ne_nil _ _) (fun line h => ?_)
  rw [List.eq_of_mem_replicate h]
  exact hline

/-- With that repository on disk nothing red is found, and 34 lines are repetitions. -/
theorem repeatedName_not_exactPerimeter :
    ¬ ExactPerimeter Runtime.ascii repeatedDisk (fun _ => .error .syntaxError) "../"
      (loadsOf ["Verifrax/proof"]) := by
  have hlive : (loadsOf ["Verifrax/proof"]).liveInventory ≠ [] := by decide
  have hclean : CleanAudit repeatedDisk (fun _ => .error .syntaxError)
      (loadGovernedRepos repeatedDisk "../").repos (loadsOf ["Verifrax/proof"]) := by
    rw [repeated_repos]
    refine ⟨by decide, ?_, nofun, nofun, nofun⟩
    apply (sameMembers_iff _ _).mp
    decide +kernel
  obtain ⟨findings, hmain, hfree⟩ := (free_mainFindings_iff hlive).mpr hclean
  intro h
  have hnodup := (h findings hmain hfree).2.1
  rw [repeated_repos] at hnodup
  revert hnodup
  decide +kernel

/-- On the list the code carries a clean audit is an exact perimeter. -/
theorem exactPerimeter_bootstrap : ExactPerimeter Runtime.ascii (fun _ => none)
    (fun _ => .error .syntaxError) "../" (loadsOf BOOTSTRAP_GOVERNED_REPOS_35) :=
  (exactPerimeter_iff Runtime.ascii (fun _ => none) (fun _ => .error .syntaxError) "../"
    (loadsOf BOOTSTRAP_GOVERNED_REPOS_35) (by decide)).mpr (Or.inl (by decide +kernel))

end Admissorium.Cli
