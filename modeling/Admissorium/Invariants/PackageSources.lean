import Admissorium.Invariants.Registries

/-!
# Packages and the repositories they are in

A silent `packageRegistryInvariant` leaves one registered source for each name, and the same
names on both sides. Where a package was observed is never compared with that source, so a
silent audit says nothing about it (`silentMeansOneSource_iff`).
-/
namespace Admissorium.Invariants.PackageSources
set_option autoImplicit false

open JavaScript Findings Registries

variable (registryEntries : List PackageRegistryEntry) (observedPackages : List ObservedPackage)

/-- Some entry gives the name this source, neither of them missing or empty. -/
def Names (name source : String) : Prop := (name, source) ∈ registryEntries.filterMap registered

/-- The names that have a source are the names that were observed. -/
def SameNames : Prop :=
  ∀ name, (∃ source, Names registryEntries name source) ↔ ∃ p ∈ observedPackages, p.name = name

/-- A silent audit means that the registry names one source for every observed package, the
repository it is in, and that packages with one name are in one repository. -/
def SilentMeansOneSource (sourceOfTruth : String) : Prop :=
  packageRegistryInvariant registryEntries observedPackages sourceOfTruth = [] →
    (∀ p ∈ observedPackages, ∀ repo, Names registryEntries p.name repo ↔ repo = p.repo) ∧
      ∀ p ∈ observedPackages, ∀ q ∈ observedPackages, p.name = q.name → p.repo = q.repo

/-- Where each name has one source and the names agree, every package is in its source. -/
def ObservedAtSource : Prop :=
  OneSource registryEntries → SameNames registryEntries observedPackages →
    ∀ p ∈ observedPackages, Names registryEntries p.name p.repo

/-! ## What silence leaves -/

theorem mem_registryNames_iff (name : String) :
    name ∈ (registryByName registryEntries).map Prod.fst ↔ ∃ source, Names registryEntries name source := by
  have hkeys := Buckets.mem_keys_collect Prod.fst (registryEntries.filterMap registered) name
  rw [registryByName, List.map_map]
  refine hkeys.trans ⟨?_, ?_⟩
  · rintro ⟨entry, hentry, rfl⟩
    exact ⟨entry.2, hentry⟩
  · rintro ⟨source, hsource⟩
    exact ⟨(name, source), hsource, rfl⟩

theorem conflicts_eq_nil_iff (sourceOfTruth : String) :
    (registryByName registryEntries).flatMap (conflictFinding sourceOfTruth) = [] ↔
      OneSource registryEntries := by
  rw [← free_conflicts_iff sourceOfTruth, List.flatMap_eq_nil_iff, free_flatMap]
  refine forall₂_congr (fun bucket _ => ?_)
  rw [conflictFinding, pushIf_eq_nil_iff]
  refine (free_pushIf ?_ _).symm
  rfl

theorem eq_nil_iff (sourceOfTruth : String) :
    packageRegistryInvariant registryEntries observedPackages sourceOfTruth = [] ↔
      OneSource registryEntries ∧ SameNames registryEntries observedPackages := by
  have hmissing : (registryByName registryEntries).flatMap
      (missingFinding sourceOfTruth observedPackages) = [] ↔
        ∀ name, (∃ source, Names registryEntries name source) → ∃ p ∈ observedPackages, p.name = name := by
    simp only [List.flatMap_eq_nil_iff, missingFinding, pushIf_eq_nil_iff, decide_eq_false_iff_not,
      not_not, ← mem_registryNames_iff, ← List.mem_map]
    exact List.forall_mem_map.symm
  have hunregistered : observedPackages.flatMap (unregisteredFinding sourceOfTruth
      ((registryByName registryEntries).map Prod.fst)) = [] ↔
        ∀ name, (∃ p ∈ observedPackages, p.name = name) → ∃ source, Names registryEntries name source := by
    simp only [List.flatMap_eq_nil_iff, unregisteredFinding, pushIf_eq_nil_iff,
      decide_eq_false_iff_not, not_not, ← mem_registryNames_iff, ← List.mem_map]
    exact List.forall_mem_map.symm
  rw [packageRegistryInvariant, List.append_eq_nil_iff, List.append_eq_nil_iff,
    conflicts_eq_nil_iff, hmissing, hunregistered, and_assoc]
  refine and_congr_right (fun _ => ?_)
  exact ⟨fun h name => ⟨h.1 name, h.2 name⟩, fun h => ⟨fun name => (h name).mp, fun name => (h name).mpr⟩⟩

/-- Silence means one source exactly when, wherever it can be had, the packages are observed
in the repositories that the registry names. -/
theorem silentMeansOneSource_iff (sourceOfTruth : String) :
    SilentMeansOneSource registryEntries observedPackages sourceOfTruth ↔
      ObservedAtSource registryEntries observedPackages := by
  rw [SilentMeansOneSource, eq_nil_iff]
  constructor
  · intro h hone hnames p hp
    exact ((h ⟨hone, hnames⟩).1 p hp p.repo).mpr rfl
  · intro h hsilent
    obtain ⟨hone, hnames⟩ := hsilent
    have hsource := h hone hnames
    -- two sources of one name are the same, whoever names them
    have hunique : ∀ {name a b : String}, Names registryEntries name a →
        Names registryEntries name b → a = b := fun ha hb => hone _ ha _ hb rfl
    refine ⟨fun p hp repo => ⟨fun hrepo => hunique hrepo (hsource p hp), ?_⟩, ?_⟩
    · rintro rfl
      exact hsource p hp
    · intro p hp q hq hname
      have hq' := hsource q hq
      rw [← hname] at hq'
      exact hunique (hsource p hp) hq'

/-- A package registered to one repository and found in two others. -/
def strayRegistry : List PackageRegistryEntry :=
  [{ name := some "@verifrax/verify", source_repo := some "Verifrax/VERIFRAX-verify" }]

def strayPackages : List ObservedPackage :=
  [⟨"Verifrax/PROBATORIUM", "@verifrax/verify", "package.json"⟩,
    ⟨"Verifrax/SIGILLARIUM", "@verifrax/verify", "package.json"⟩]

theorem stray_silent :
    packageRegistryInvariant strayRegistry strayPackages ".github/governance/PACKAGES.json" = [] ∧
      ¬ SilentMeansOneSource strayRegistry strayPackages ".github/governance/PACKAGES.json" := by
  have hsilent : packageRegistryInvariant strayRegistry strayPackages
      ".github/governance/PACKAGES.json" = [] := by decide +kernel
  refine ⟨hsilent, ?_⟩
  intro h
  have hrepo := (h hsilent).2 _ List.mem_cons_self _ (List.mem_cons_of_mem _ List.mem_cons_self) rfl
  revert hrepo
  decide

end Admissorium.Invariants.PackageSources
