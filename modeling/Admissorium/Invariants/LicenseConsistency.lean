import Admissorium.JavaScript.Text
import Admissorium.Reports

/-!
# License consistency

`invariants/license-consistency` compares the license of a repository with the registry.
All its findings are yellow and marked as repairable.
-/
namespace Admissorium.Invariants.LicenseConsistency
set_option autoImplicit false

open JavaScript Reports

/-- The texts one of which a license shows; an unknown license must show its own name. -/
def expectedLicenseSignal (license : String) : List String :=
  if license = "Apache-2.0" then ["Apache License"]
  else if license = "AGPL-3.0" then
    ["GNU Affero General Public License", "Affero General Public License"]
  else if license = "GPL-3.0" then ["GNU General Public License"]
  else if license = "MPL-2.0" then ["Mozilla Public License"]
  else [license]

def showsLicense (rt : Runtime) (license text : String) : Bool :=
  (expectedLicenseSignal license).any (Text.includesIgnoreCase rt text)

/-- What the findings of one repository have in common. -/
def licenseFinding (repo sourceOfTruth finding_id surface expected observed
    recommended_action : String) : Finding where
  finding_id
  severity := .yellow
  repo
  surface
  invariant := "one_license_truth"
  expected := .str expected
  observed := .str observed
  source_of_truth := sourceOfTruth
  autofix_allowed := true
  recommended_action

def missingLicense (repo expectedLicense sourceOfTruth : String) : Finding :=
  licenseFinding repo sourceOfTruth "YELLOW-LICENSE-MISSING" "LICENSE" expectedLicense
    "LICENSE missing" "Add LICENSE matching governance license registry."

def licenseMismatch (repo expectedLicense sourceOfTruth : String) : Finding :=
  licenseFinding repo sourceOfTruth "YELLOW-LICENSE-FILE-MISMATCH" "LICENSE" expectedLicense
    "LICENSE text does not expose the expected license signal"
    "Align LICENSE text with governance license registry."

def auctorisealWording (repo sourceOfTruth : String) : Finding :=
  licenseFinding repo sourceOfTruth "YELLOW-AUCTORISEAL-LICENSE-WORDING" "README.md"
    "GNU Affero General Public License v3.0" "GNU General Public License v3.0"
    "Normalize README wording to AGPL-3.0."

/-- The readme of one repository still names the license it had. -/
def wordingFindings (repo : String) (readmeText : Option String) (expectedLicense
    sourceOfTruth : String) : List Finding :=
  match orElseText readmeText none with
  | none => []
  | some readme =>
      let saysGpl := Text.includes readme "GNU General Public License v3.0"
      let saysAgpl := Text.includes readme "GNU Affero General Public License v3.0"
      if repo = "Verifrax/AUCTORISEAL" ∧ expectedLicense = "AGPL-3.0" ∧ saysGpl = true ∧
          saysAgpl = false then
        [auctorisealWording repo sourceOfTruth]
      else []

def licenseConsistencyInvariant (rt : Runtime) (repo : String) (licenseText readmeText : Option String)
    (expectedLicense : String) (sourceOfTruth : Option String) : List Finding :=
  let sourceOfTruth := sourceOfTruth.getD ".github/governance/LICENSES.json"
  match orElseText licenseText none with
  | none => [missingLicense repo expectedLicense sourceOfTruth]
  | some text =>
      (if showsLicense rt expectedLicense text then []
        else [licenseMismatch repo expectedLicense sourceOfTruth]) ++
        wordingFindings repo readmeText expectedLicense sourceOfTruth

/-- The license text is there and shows the expected license. -/
def LicenseShown (rt : Runtime) (licenseText : Option String) (expectedLicense : String) : Prop :=
  ∃ text, orElseText licenseText none = some text ∧ showsLicense rt expectedLicense text = true

theorem wordingFindings_surface {repo expectedLicense sourceOfTruth : String}
    {readmeText : Option String} {finding : Finding}
    (h : finding ∈ wordingFindings repo readmeText expectedLicense sourceOfTruth) :
    finding = auctorisealWording repo sourceOfTruth := by
  cases hr : orElseText readmeText none with
  | none => simp [wordingFindings, hr] at h
  | some readme =>
      simp only [wordingFindings, hr] at h
      split at h
      · exact List.mem_singleton.mp h
      · cases h

section

variable {rt : Runtime} {repo : String} {licenseText readmeText : Option String}
  {expectedLicense : String} {sourceOfTruth : Option String}

/-- Every finding may be repaired automatically, and is about the license or the readme. -/
theorem license_finding {finding : Finding} (h : finding ∈ licenseConsistencyInvariant rt repo
    licenseText readmeText expectedLicense sourceOfTruth) :
    finding.autofix_allowed = true ∧
      (finding.surface = "LICENSE" ∨ finding.surface = "README.md") := by
  unfold licenseConsistencyInvariant at h
  split at h
  · rw [List.mem_singleton.mp h]
    exact ⟨rfl, Or.inl rfl⟩
  · rcases List.mem_append.mp h with hm | hw
    · split at hm
      · cases hm
      · rw [List.mem_singleton.mp hm]
        exact ⟨rfl, Or.inl rfl⟩
    · rw [wordingFindings_surface hw]
      exact ⟨rfl, Or.inr rfl⟩

/-- No finding is red. -/
theorem license_severity {finding : Finding} (h : finding ∈ licenseConsistencyInvariant rt repo
    licenseText readmeText expectedLicense sourceOfTruth) : finding.severity = .yellow := by
  unfold licenseConsistencyInvariant at h
  split at h
  · rw [List.mem_singleton.mp h]
    rfl
  · rcases List.mem_append.mp h with hm | hw
    · split at hm
      · cases hm
      · rw [List.mem_singleton.mp hm]
        rfl
    · rw [wordingFindings_surface hw]
      rfl

/-- A finding is about the license exactly when the license is not shown. -/
theorem license_surface_iff :
    (∃ finding ∈ licenseConsistencyInvariant rt repo licenseText readmeText expectedLicense
      sourceOfTruth, finding.surface = "LICENSE") ↔
      ¬ LicenseShown rt licenseText expectedLicense := by
  unfold licenseConsistencyInvariant LicenseShown
  cases ht : orElseText licenseText none with
  | none => simp [missingLicense, licenseFinding]
  | some text =>
      cases hs : showsLicense rt expectedLicense text with
      | true =>
          simp only [hs, if_true, List.nil_append, Option.some.injEq, exists_eq_left', not_true,
            iff_false, not_exists, not_and]
          intro finding hf
          have hname : "README.md" ≠ "LICENSE" := by decide
          rw [wordingFindings_surface hf]
          exact hname
      | false => simp [hs, licenseMismatch, licenseFinding]

end

end Admissorium.Invariants.LicenseConsistency
