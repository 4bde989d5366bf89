import Mathlib.Data.List.Basic

/-!
# Lists of findings

A checker pushes a finding where a check fails. A list made this way is free of the findings
that matter exactly when none of the checks that push one fails.
-/
namespace Admissorium.Findings
set_option autoImplicit false

variable {α β : Type}

/-- `if (failed) findings.push(finding)`. -/
def pushIf (failed : Bool) (finding : α) : List α := if failed then [finding] else []

theorem pushIf_eq_nil_iff (failed : Bool) (finding : α) : pushIf failed finding = [] ↔ failed = false := by
  cases failed <;> simp [pushIf]

/-- None of the findings is bad. -/
def Free (bad : α → Prop) (findings : List α) : Prop := ∀ f ∈ findings, ¬ bad f

instance (bad : α → Prop) [DecidablePred bad] (findings : List α) : Decidable (Free bad findings) :=
  inferInstanceAs (Decidable (∀ f ∈ findings, ¬ bad f))

section Free
variable {bad : α → Prop}

theorem free_nil : Free bad [] := fun _ h => absurd h List.not_mem_nil

theorem free_append {a b : List α} : Free bad (a ++ b) ↔ Free bad a ∧ Free bad b :=
  List.forall_mem_append

theorem free_pushIf {finding : α} (h : bad finding) (failed : Bool) :
    Free bad (pushIf failed finding) ↔ failed = false := by
  cases failed <;> simp [Free, pushIf, h]

theorem free_pushIf_of_not {finding : α} (h : ¬ bad finding) (failed : Bool) :
    Free bad (pushIf failed finding) := by
  cases failed <;> simp [Free, pushIf, h]

theorem free_flatMap {items : List β} {f : β → List α} :
    Free bad (items.flatMap f) ↔ ∀ b ∈ items, Free bad (f b) := by
  simp only [Free, List.mem_flatMap]
  constructor
  · exact fun h b hb g hg => h g ⟨b, hb, hg⟩
  · intro h g hg
    obtain ⟨b, hb, hg⟩ := hg
    exact h b hb g hg

section Status
variable [DecidablePred bad] (findings : List α)

theorem any_eq_true_iff_not_free : findings.any (fun f => bad f) = true ↔ ¬ Free bad findings := by
  simp only [List.any_eq_true, decide_eq_true_eq, Free, not_forall, not_not, exists_prop]

/-- `findings.some(bad) ? red : green`. -/
theorem status_eq_green_iff {γ : Type} {red green : γ} (hne : red ≠ green) :
    (if findings.any (fun f => bad f) then red else green) = green ↔ Free bad findings := by
  have hany : findings.any (fun f => bad f) = true ↔ ¬ Free bad findings :=
    any_eq_true_iff_not_free findings
  split
  · exact iff_of_false hne (hany.mp ‹_›)
  · exact iff_of_true rfl (not_not.mp (fun hnot => ‹¬ _› (hany.mpr hnot)))

theorem status_eq_red_iff {γ : Type} {red green : γ} (hne : red ≠ green) :
    (if findings.any (fun f => bad f) then red else green) = red ↔ ¬ Free bad findings := by
  rw [← status_eq_green_iff findings hne]
  split
  · exact iff_of_true rfl hne
  · exact iff_of_false hne.symm (not_not.mpr rfl)

end Status

end Free

/-! ## Some finding -/

section Some
variable {wanted : α → Prop}

theorem exists_mem_append {a b : List α} :
    (∃ f ∈ a ++ b, wanted f) ↔ (∃ f ∈ a, wanted f) ∨ ∃ f ∈ b, wanted f := by
  simp only [List.mem_append, or_and_right, exists_or]

theorem exists_mem_pushIf (failed : Bool) (finding : α) :
    (∃ f ∈ pushIf failed finding, wanted f) ↔ failed = true ∧ wanted finding := by
  cases failed <;> simp [pushIf]

theorem exists_mem_flatMap {items : List β} {f : β → List α} :
    (∃ g ∈ items.flatMap f, wanted g) ↔ ∃ b ∈ items, ∃ g ∈ f b, wanted g := by
  simp only [List.mem_flatMap]
  constructor
  · rintro ⟨g, ⟨b, hb, hg⟩, hwanted⟩
    exact ⟨b, hb, g, hg, hwanted⟩
  · rintro ⟨b, hb, g, hg, hwanted⟩
    exact ⟨g, ⟨b, hb, hg⟩, hwanted⟩

end Some

end Admissorium.Findings
