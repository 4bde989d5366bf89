import Admissorium.Classify.Classifiers
import Admissorium.JavaScript.Structural

/-!
# The checks of the text

The classifiers look for phrases and patterns in the lowered and masked JSON text of a
candidate. None of the phrases, patterns and masks reaches across JSON structure, so what
they find in a candidate is what they find in one of its members.
-/
namespace Admissorium.Classify.TextChecks
set_option autoImplicit false

open JavaScript LanguageBoundary

theorem mask_empty : maskSafeBoundaryDenials "" = "" := by decide +kernel

theorem denialPatterns_shun : ∀ r ∈ denialPatterns, ∀ d ∈ structural, r.shuns d = true := by
  decide +kernel

/-- Denials are masked on each side of a structural character. -/
theorem mask_split (a b : String) {d : Char} (hd : d ∈ structural) :
    maskSafeBoundaryDenials (a ++ String.singleton d ++ b) =
      maskSafeBoundaryDenials a ++ String.singleton d ++ maskSafeBoundaryDenials b := by
  have hword : ∀ d ∈ structural, isWordChar d = false := by decide
  have hshun : ∀ r ∈ denialPatterns, r.shuns d = true := fun r hr => denialPatterns_shun r hr d hd
  unfold maskSafeBoundaryDenials
  generalize denialPatterns = patterns at hshun
  induction patterns generalizing a b with
  | nil => rfl
  | cons r rest ih =>
      obtain ⟨hr, hrest⟩ := List.forall_mem_cons.mp hshun
      rw [List.foldl_cons, List.foldl_cons, List.foldl_cons,
        RegExp.replaceAll_barrier (hword d hd) hr, ih _ _ hrest]

/-- What a check finds in a JSON text once it is lowered and masked. -/
def sees (rt : Runtime) (check : String → Bool) (json : String) : Bool :=
  check (maskSafeBoundaryDenials (rt.toLowerCase json))

section Sees
variable {rt : Runtime} {check : String → Bool}

theorem local_sees (hlower : LowersApart rt) (h : Local check) : Local (sees rt check) :=
  (h.comp mask_empty (fun a b _ hd => mask_split a b hd)).comp rt.toLowerCase_empty hlower

/-- A check of the danger text of an object is a check of its members. -/
theorem check_dangerText (hlower : LowersApart rt) (h : Local check)
    {fields : List (String × Value)} {text : String}
    (ht : dangerText rt (.obj fields) = .ok text) :
    check text = (Json.members rt fields).any (sees rt check) := by
  have hjson : ∃ json, Json.stringify rt (.obj fields) = some json := by
    rw [Json.stringify]
    exact ⟨_, rfl⟩
  obtain ⟨json, hjson⟩ := hjson
  rw [dangerText, LanguageBoundary.normalize, hjson] at ht
  rw [← (local_sees hlower h).stringify_obj hjson, sees, ← Except.ok.inj ht]

end Sees

/-! ## The checks are local -/

theorem local_includesSome {phrases : List String}
    (h : ∀ phrase ∈ phrases, phrase ≠ "" ∧ ∀ d ∈ structural, d ∉ phrase.toList) :
    Local (includesSome phrases) :=
  Local.any (fun phrase hp => Local.includes (h phrase hp).1 (h phrase hp).2)

theorem local_danger : Local (includesSome dangerPhrases) :=
  local_includesSome (by decide +kernel)

theorem local_roleCollapse : Local (includesSome roleCollapsePhrases) :=
  local_includesSome (by decide +kernel)

theorem local_contentsWrite : Local asksContentsWrite := local_includesSome (by decide +kernel)

theorem local_packagePublish : Local asksPackagePublish := local_includesSome (by decide +kernel)

theorem local_secret : Local hasSecretSignal := by
  have hempty : ∀ r ∈ secretPatterns, r.test "" = false := by decide +kernel
  have hshun : ∀ r ∈ secretPatterns, ∀ d ∈ structural, r.shuns d = true := by decide +kernel
  exact Local.any (fun r hr => Local.test (hempty r hr) (hshun r hr))

/-- The checks any of which is a reason. -/
def reasonChecks : List (String → Bool) :=
  [includesSome dangerPhrases, asksContentsWrite, asksPackagePublish, hasSecretSignal]

theorem local_reasonChecks : ∀ check ∈ reasonChecks, Local check := by
  simp only [reasonChecks, List.forall_mem_cons]
  exact ⟨local_danger, local_contentsWrite, local_packagePublish, local_secret, nofun⟩

theorem redText_iff (text : String) : RedText text ↔ ∃ check ∈ reasonChecks, check text = true := by
  simp [RedText, reasonChecks]

end Admissorium.Classify.TextChecks
