import Admissorium.JavaScript.Joined
import Admissorium.JavaScript.OwnEntries
import Admissorium.Reports

/-!
# One authority scope

`authorityScopeInvariant` sorts each scope, joins it with line breaks and compares the joined
texts with the first. Order makes no difference; a line break inside a name does, and so does
an empty scope next to one whose only name is empty (`scopesCompared_iff`).
-/
namespace Admissorium.Invariants.AuthorityScope
set_option autoImplicit false

open JavaScript Reports

abbrev Scopes := OwnEntries (List String)

/-- `[...scope].sort().join("\n")`. -/
def normalize (scope : List String) : String := Text.join (Text.sorted scope) '\n'

def mismatchFinding (expected : String) (normalized : List (String × String)) : Finding where
  finding_id := "RED-AUTHORITY-SCOPE-MISMATCH"
  severity := .red
  repo := "Verifrax/AUCTORISEAL"
  surface := "authorities/current + public/authority + .github/governance"
  invariant := "one_authority_scope"
  expected := .str expected
  observed := .obj (normalized.map fun entry => (entry.1, .str entry.2))
  source_of_truth := ".github/governance/GOVERNED_REPOS.txt + AUCTORISEAL authority objects"
  autofix_allowed := false
  recommended_action :=
    "Accept one governed-repo scope through governance review, then regenerate derived authority projections."

def authorityScopeInvariant (observedScopes : Scopes) : List Finding :=
  let entries := observedScopes.items
  if entries.length < 2 then []
  else
    let normalized := entries.map fun entry => (entry.1, normalize entry.2)
    match normalized with
    | [] => []
    | first :: _ =>
        let mismatches := normalized.filter fun entry => entry.2 ≠ first.2
        if mismatches.length = 0 then [] else [mismatchFinding first.2 normalized]

/-! ## What the comparison should say -/

def Reported (scopes : Scopes) : Prop :=
  ∃ f ∈ authorityScopeInvariant scopes, f.finding_id = "RED-AUTHORITY-SCOPE-MISMATCH"

/-- Any two scopes hold the same names, each as often. -/
def OneScope (scopes : Scopes) : Prop :=
  ∀ a ∈ scopes.items, ∀ b ∈ scopes.items, a.2.Perm b.2

/-- The same names with the same scopes, all in any order. -/
def Rearranged (scopes others : Scopes) : Prop :=
  ∃ items, scopes.items.Perm items ∧
    List.Forall₂ (fun a b => a.1 = b.1 ∧ a.2.Perm b.2) items others.items

/-- Scopes are compared as multisets, and no order enters the answer. -/
structure ScopesCompared (scopes : Scopes) : Prop where
  reported_iff : Reported scopes ↔ ∃ a ∈ scopes.items, ∃ b ∈ scopes.items, ¬ a.2.Perm b.2
  unchanged : ∀ others, Rearranged scopes others → (Reported others ↔ Reported scopes)

/-- The lines of a scope in order, an empty scope being one empty line. -/
def lines (scope : List String) : List String := Text.pieces (Text.sorted scope) '\n'

/-- Scopes that differ can be told apart by their lines, those of some two at least. -/
def LinesTell (scopes : Scopes) : Prop :=
  (∀ a ∈ scopes.items, ∀ b ∈ scopes.items, lines a.2 = lines b.2) → OneScope scopes

/-! ## What the comparison says -/

/-- Scopes with the same names are normalized alike. -/
theorem normalize_eq_of_perm {scope other : List String} (h : scope.Perm other) :
    normalize scope = normalize other := by
  rw [normalize, normalize, (Text.sorted_eq_iff scope other).mpr h]

theorem normalize_eq_iff (scope other : List String) :
    normalize scope = normalize other ↔ lines scope = lines other :=
  Text.join_eq_iff _ _ '\n'

/-- There is nothing to report when all scopes are normalized alike. -/
theorem not_reported_iff (scopes : Scopes) :
    ¬ Reported scopes ↔
      ∀ a ∈ scopes.items, ∀ b ∈ scopes.items, normalize a.2 = normalize b.2 := by
  rw [Reported, authorityScopeInvariant]
  match hitems : scopes.items with
  | [] => simp
  | [only] => simp
  | first :: second :: rest =>
      have hlength : ¬ (first :: second :: rest).length < 2 := by simp
      have hnil : (((first :: second :: rest).map fun entry => (entry.1, normalize entry.2)).filter
          fun entry => entry.2 ≠ normalize first.2).length = 0 ↔
          ∀ a ∈ first :: second :: rest, normalize a.2 = normalize first.2 := by
        rw [List.length_eq_zero_iff, List.filter_eq_nil_iff, List.forall_mem_map]
        simp only [decide_eq_true_eq, not_not]
      rw [if_neg hlength]
      change ¬ (∃ f ∈ if _ = 0 then [] else [_], _) ↔ _
      by_cases hsame : ∀ a ∈ first :: second :: rest, normalize a.2 = normalize first.2
      · rw [if_pos (hnil.mpr hsame)]
        exact iff_of_true (by simp) (fun a ha b hb => (hsame a ha).trans (hsame b hb).symm)
      · rw [if_neg (fun h => hsame (hnil.mp h))]
        refine iff_of_false (fun h => h ⟨_, List.mem_singleton_self _, rfl⟩) ?_
        exact fun h => hsame (fun a ha => h a ha first List.mem_cons_self)

theorem map_normalize_eq {items others : List (String × List String)}
    (h : List.Forall₂ (fun a b => a.1 = b.1 ∧ a.2.Perm b.2) items others) :
    items.map (fun entry => normalize entry.2) = others.map (fun entry => normalize entry.2) := by
  induction h with
  | nil => rfl
  | cons hab _ ih => rw [List.map_cons, List.map_cons, ih, normalize_eq_of_perm hab.2]

/-- The answer is the same for any order of the names and of the scopes. -/
theorem reported_of_rearranged {scopes others : Scopes} (h : Rearranged scopes others) :
    Reported others ↔ Reported scopes := by
  obtain ⟨items, hperm, hforall⟩ := h
  have hnormal := map_normalize_eq hforall
  have hmem : ∀ text, (∃ a ∈ others.items, normalize a.2 = text) ↔
      ∃ a ∈ scopes.items, normalize a.2 = text := by
    intro text
    rw [← List.mem_map, ← List.mem_map, ← hnormal]
    exact (hperm.map _).mem_iff.symm
  have hall : ∀ entries : Scopes, (∀ a ∈ entries.items, ∀ b ∈ entries.items,
      normalize a.2 = normalize b.2) ↔ ∀ s t, (∃ a ∈ entries.items, normalize a.2 = s) →
        (∃ b ∈ entries.items, normalize b.2 = t) → s = t := by
    intro entries
    constructor
    · rintro h s t ⟨a, ha, rfl⟩ ⟨b, hb, rfl⟩
      exact h a ha b hb
    · exact fun h a ha b hb => h _ _ ⟨a, ha, rfl⟩ ⟨b, hb, rfl⟩
  rw [← not_iff_not, not_reported_iff, not_reported_iff, hall others, hall scopes]
  simp only [hmem]

/-- Scopes are compared as multisets exactly when the lines of some two tell apart scopes that
differ. -/
theorem scopesCompared_iff (scopes : Scopes) : ScopesCompared scopes ↔ LinesTell scopes := by
  have hlines : ¬ Reported scopes ↔
      ∀ a ∈ scopes.items, ∀ b ∈ scopes.items, lines a.2 = lines b.2 := by
    simp only [not_reported_iff, normalize_eq_iff]
  have hone : ¬ (∃ a ∈ scopes.items, ∃ b ∈ scopes.items, ¬ a.2.Perm b.2) ↔ OneScope scopes := by
    simp only [not_exists, not_and, not_not, OneScope]
  constructor
  · intro h hsame
    rw [← hone, ← h.reported_iff]
    exact hlines.mpr hsame
  · intro h
    refine ⟨?_, fun others => reported_of_rearranged⟩
    rw [← not_iff_not, hone]
    constructor
    · exact fun hsilent => h (hlines.mp hsilent)
    · intro hscope
      rw [not_reported_iff]
      exact fun a ha b hb => normalize_eq_of_perm (hscope a ha b hb)

/-- Names without line breaks, and no empty scope beside one of a single empty name. -/
structure Plain (scopes : Scopes) : Prop where
  no_break : ∀ entry ∈ scopes.items, ∀ name ∈ entry.2, '\n' ∉ name.toList
  no_empty : ∀ a ∈ scopes.items, ∀ b ∈ scopes.items, a.2 = [] → b.2 ≠ [""]

/-- Plain scopes are told apart by their lines. -/
theorem Plain.linesTell {scopes : Scopes} (h : Plain scopes) : LinesTell scopes := by
  have hlines : ∀ a ∈ scopes.items, a.2 ≠ [] → lines a.2 = Text.sorted a.2 := by
    intro a ha hne
    refine Text.pieces_eq_self (fun hnil => ?_) ?_
    · have hperm := Text.perm_sorted a.2
      rw [hnil] at hperm
      exact hne hperm.nil_eq.symm
    · exact fun name hname => h.no_break a ha name ((Text.perm_sorted a.2).mem_iff.mp hname)
  have hempty : ∀ a ∈ scopes.items, ∀ b ∈ scopes.items, lines a.2 = lines b.2 → a.2 = [] →
      b.2 = [] := by
    intro a ha b hb hab hnil
    by_contra hne
    rw [hlines b hb hne, hnil] at hab
    have hperm := Text.perm_sorted b.2
    rw [← hab] at hperm
    exact h.no_empty a ha b hb hnil hperm.symm.eq_singleton
  intro hsame a ha b hb
  by_cases hnil : a.2 = []
  · rw [hnil, hempty a ha b hb (hsame a ha b hb) hnil]
  · have hne : b.2 ≠ [] := fun hb' => hnil (hempty b hb a ha (hsame b hb a ha) hb')
    have heq := hsame a ha b hb
    rw [hlines a ha hnil, hlines b hb hne] at heq
    exact (Text.sorted_eq_iff _ _).mp heq

/-- One name with a line break against two names. -/
def broken : Scopes where
  items := [("governed", ["Verifrax/A", "Verifrax/B"]), ("current", ["Verifrax/A\nVerifrax/B"])]
  distinct := by decide

/-- Nothing is reported, though one scope has two names and the other one. -/
theorem broken_not_compared : ¬ Reported broken ∧ ¬ ScopesCompared broken := by
  have hsilent : ¬ Reported broken := by
    rw [not_reported_iff]
    decide +kernel
  refine ⟨hsilent, ?_⟩
  intro h
  refine hsilent (h.reported_iff.mpr ?_)
  refine ⟨_, List.mem_cons_self, _, List.mem_cons_of_mem _ List.mem_cons_self, ?_⟩
  intro hperm
  have hlength := hperm.length_eq
  revert hlength
  decide

end Admissorium.Invariants.AuthorityScope
