import Admissorium.Firewall.ProtectedTruth
import Admissorium.Verdict.Admission

/-!
# The verdict and the firewall

The firewall reads the truth perimeter from a policy file; the verdict reads a list of
prefixes of its own. The prefixes are the heads of eight families of the perimeter, and
a path of the other ten is a reason for quarantine only when the text gives one.
-/
namespace Admissorium.Verdict.FirewallStrictness
set_option autoImplicit false

open JavaScript Policies Perimeter Classify LanguageBoundary Firewall.ProtectedTruth Admission

/-! ## Quarantine -/

/-- The verdict quarantines the candidate, and its receipt does not admit it. -/
def Quarantined (rt : Runtime) (candidate : Value) : Prop :=
  ∃ verdict, compileActuatorVerdict rt candidate {} = .ok verdict ∧
    verdict.get "state" = .str "INADMISSIBLE_OR_QUARANTINE" ∧
    ∃ receipt, compileAdmissionReceipt rt verdict {} = .ok receipt ∧
      receipt.get "admission" = .str "NOT_ADMITTED"

/-- The paths can be read, and they or the text give a reason. -/
def GivesReason (rt : Runtime) (candidate : Value) : Prop :=
  ∃ paths text, candidatePaths candidate = .ok paths ∧ dangerText rt candidate = .ok text ∧
    AllReadable paths ∧ (TouchesTruth paths ∨ RedText text)

/-- A candidate is quarantined exactly when there is a reason. -/
theorem quarantined_iff (rt : Runtime) (candidate : Value) :
    Quarantined rt candidate ↔ GivesReason rt candidate := by
  constructor
  · intro h
    obtain ⟨verdict, hv, hstate, _⟩ := h
    obtain ⟨surface, mutation, risk, hclass, _⟩ := get_of_verdict hv
    obtain ⟨paths, text, hread, _⟩ := reads_of_surface hclass.surface_eq
    have hreason := not_calm_iff.mp ((inadmissible_iff hv hread).mp hstate)
    exact ⟨paths, text, hread.paths_eq, hread.text_eq, hread.readable, hreason⟩
  · intro h
    obtain ⟨paths, text, hp, ht, hreadable, hreason⟩ := h
    have hread : Reads rt candidate paths text := ⟨hp, ht, hreadable⟩
    obtain ⟨surface, mutation, risk, hclass⟩ := exists_classified_of_reads hread
    obtain ⟨verdict, receipt, hv, hr⟩ := exists_admission hclass
    have hcalm := not_calm_iff.mpr hreason
    refine ⟨verdict, hv, (inadmissible_iff hv hread).mpr hcalm, receipt, hr, ?_⟩
    rw [admission_of_verdict hv hr hclass, if_neg (fun hgreen =>
      hcalm ((hclass.green_iff hread).mp hgreen))]

/-! ## The prefixes and the perimeter -/

/-- The families of the perimeter whose heads the classifier lists. -/
def classifiedZones : Perimeter :=
  [.directory "law", .directory "current", .directory "epochs/current",
    .directory "authorities/current", .directory "receipts/current",
    .directory "verification/results/current", .directory "recognitions/current",
    .directory "recourse/current"]

/-- The families it does not list. -/
def unclassifiedZones : Perimeter := truthPerimeter.filter (fun z => z ∉ classifiedZones)

theorem truthPathPrefixes_eq : truthPathPrefixes = classifiedZones.map Zone.head := by decide

theorem startsWithSome_prefixes_iff (path : String) :
    startsWithSome truthPathPrefixes path = true ↔
      ∃ z ∈ classifiedZones, z.head.toList <+: path.toList := by
  rw [startsWithSome, truthPathPrefixes_eq, List.any_map, List.any_eq_true]
  apply exists_congr
  intro z
  apply and_congr_right
  intro _
  have hself : path = z.head → z.head.toList <+: path.toList := by
    rintro rfl
    exact List.prefix_rfl
  simp only [Function.comp, Bool.or_eq_true, decide_eq_true_eq, Text.startsWith,
    List.isPrefixOf_iff_prefix]
  exact ⟨fun h => h.elim hself id, Or.inr⟩

/-- A path of the perimeter starts with a prefix unless its family is not listed. -/
theorem prefixed_iff {path : String} (h : truthPerimeter.Covers path) :
    startsWithSome truthPathPrefixes path = true ↔ ¬ unclassifiedZones.Covers path := by
  rw [startsWithSome_prefixes_iff]
  constructor
  · rintro ⟨y, hy, hhead⟩ ⟨z, hz, hc⟩
    obtain ⟨hz, hnot⟩ := List.mem_filter.mp hz
    have hlisted : ∀ z ∈ classifiedZones, z ∈ truthPerimeter := by decide
    have hne : y ≠ z := by
      rintro rfl
      exact of_decide_eq_true hnot hy
    exact Zone.not_covers_of_apart (truthPerimeter_apart y (hlisted y hy) z hz hne) hhead hc
  · intro hnone
    obtain ⟨z, hz, hc⟩ := h
    by_cases hlisted : z ∈ classifiedZones
    · exact ⟨z, hlisted, Zone.starts_with_head hc⟩
    · exact absurd ⟨z, List.mem_filter.mpr ⟨hz, decide_eq_true hlisted⟩, hc⟩ hnone

/-! ## Strictness -/

/-- A candidate with a file the firewall blocks is quarantined. -/
def AsStrictAsFirewall (rt : Runtime) (candidate : Value) : Prop :=
  ∀ files, candidate.get "files" = .arr files → ∀ file ∈ files,
    Blocks rt [file.get "path"] → Quarantined rt candidate

/-- The firewall blocks none of the files. -/
def NothingBlocked (rt : Runtime) (candidate : Value) : Prop :=
  ∀ files, candidate.get "files" = .arr files → ∀ file ∈ files, ¬ Blocks rt [file.get "path"]

/-- A blocked file is quarantined exactly when some path starts with one of the eight
prefixes or the text gives a reason. -/
theorem asStrict_iff (rt : Runtime) (candidate : Value) :
    AsStrictAsFirewall rt candidate ↔
      NothingBlocked rt candidate ∨ GivesReason rt candidate := by
  rw [AsStrictAsFirewall, quarantined_iff]
  constructor
  · intro hstrict
    by_cases hreason : GivesReason rt candidate
    · exact Or.inr hreason
    · exact Or.inl (fun files hf file hm hb => hreason (hstrict files hf file hm hb))
  · rintro (hnone | hreason) files hf file hm hb
    · exact absurd hb (hnone files hf file hm)
    · exact hreason

/-- When the text gives no reason, blocked paths are quarantined unless all of them lie in
families the classifier does not list. -/
theorem calm_quarantined_iff {rt : Runtime} {candidate : Value} {paths : List String}
    {text : String} (hp : candidatePaths candidate = .ok (paths.map .str))
    (hc : ∀ path ∈ paths, truthPerimeter.Covers path)
    (ht : dangerText rt candidate = .ok text) (hcalm : ¬ RedText text) :
    Quarantined rt candidate ↔ ∃ path ∈ paths, ¬ unclassifiedZones.Covers path := by
  have htouch : TouchesTruth (paths.map .str) ↔
      ∃ path ∈ paths, ¬ unclassifiedZones.Covers path := by
    constructor
    · intro h
      obtain ⟨path, hm, hs⟩ := h
      obtain ⟨_, hm, he⟩ := List.mem_map.mp hm
      cases he
      exact ⟨path, hm, (prefixed_iff (hc path hm)).mp hs⟩
    · intro h
      obtain ⟨path, hm, hnot⟩ := h
      exact ⟨path, List.mem_map_of_mem hm, (prefixed_iff (hc path hm)).mpr hnot⟩
  rw [quarantined_iff, ← htouch]
  constructor
  · intro h
    obtain ⟨paths', text', hp', ht', _, hreason⟩ := h
    obtain rfl := Except.ok.inj (hp'.symm.trans hp)
    obtain rfl := Except.ok.inj (ht'.symm.trans ht)
    exact hreason.resolve_right hcalm
  · intro htruth
    have htexts : ∀ v ∈ paths.map Value.str, ∃ path, v = .str path := by simp
    exact ⟨_, text, hp, ht, allReadable_of_texts htexts, Or.inl htruth⟩

/-- A freeze object and nothing else. -/
def freezeCandidate : Value :=
  .obj [("files", .arr [.obj [("path", .str "freeze/v1.json")]])]

theorem freezeCandidate_not_asStrict : ¬ AsStrictAsFirewall .ascii freezeCandidate := by
  intro hstrict
  have hblocked : Blocks .ascii [.str "freeze/v1.json"] :=
    (blocks_path_iff _ _).mpr (by decide +kernel)
  have hquarantined := hstrict _ rfl _ (List.mem_singleton.mpr rfl) hblocked
  have hpaths : candidatePaths freezeCandidate = .ok (["freeze/v1.json"].map .str) := rfl
  have htext : dangerText .ascii freezeCandidate =
      .ok "\x7b\"files\":[\x7b\"path\":\"freeze/v1.json\"\x7d]\x7d" := by decide +kernel
  rw [calm_quarantined_iff hpaths (by decide +kernel) htext (by decide +kernel)] at hquarantined
  revert hquarantined
  decide +kernel

end Admissorium.Verdict.FirewallStrictness
