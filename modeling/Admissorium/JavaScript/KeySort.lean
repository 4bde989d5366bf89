import Mathlib.Data.List.Sort
import Mathlib.Data.List.TakeWhile

/-!
# Sorting by a key

A stable sort by a key puts a list in one of its arrangements: permutations in which the keys
ascend. What is read off the sorted list depends on the order it was stored in exactly when
entries that share a key read differently (`map_sortByKey_eq_iff`).
-/
namespace Admissorium.JavaScript.KeySort
set_option autoImplicit false

variable {α κ β : Type} [LinearOrder κ]

/-- A stable sort. -/
def sortByKey (key : α → κ) (items : List α) : List α :=
  items.insertionSort (fun a b => key a ≤ key b)

/-- The same entries, with ascending keys. -/
structure Arranges (key : α → κ) (items arranged : List α) : Prop where
  perm : arranged.Perm items
  ascending : arranged.Pairwise (fun a b => key a ≤ key b)

/-- Two entries share a key and read differently. -/
def Ambiguous (key : α → κ) (read : α → β) (items : List α) : Prop :=
  ∃ a ∈ items, ∃ b ∈ items, key a = key b ∧ read a ≠ read b

variable {key : α → κ} {read : α → β} {items : List α}

theorem arranges_sortByKey (key : α → κ) (items : List α) :
    Arranges key items (sortByKey key items) where
  perm := List.perm_insertionSort _ _
  ascending := by
    have htrans : IsTrans α (fun a b => key a ≤ key b) := ⟨fun _ _ _ h k => le_trans h k⟩
    have htotal : Std.Total (fun a b : α => key a ≤ key b) := ⟨fun a b => le_total _ _⟩
    exact List.pairwise_insertionSort _ _

/-- An arrangement is what it sorts to. -/
theorem Arranges.sortByKey_eq {arranged : List α} (h : Arranges key items arranged) :
    sortByKey key arranged = arranged :=
  h.ascending.insertionSort_eq

/-- Without ambiguity any two orders of the entries are sorted to the same readings. -/
theorem map_sortByKey_eq (hclear : ¬ Ambiguous key read items) {others : List α}
    (hperm : others.Perm items) :
    (sortByKey key others).map read = (sortByKey key items).map read := by
  have hsorted := arranges_sortByKey key items
  have hother := arranges_sortByKey key others
  have hascending : ∀ {arranged : List α}, arranged.Pairwise (fun a b => key a ≤ key b) →
      (arranged.map (fun a => (key a, read a))).Pairwise (fun x y => x.1 ≤ y.1) :=
    fun h => List.pairwise_map.mpr h
  have hpairs : (sortByKey key others).map (fun a => (key a, read a)) =
      (sortByKey key items).map (fun a => (key a, read a)) := by
    refine ((hother.perm.trans (hperm.trans hsorted.perm.symm)).map _).eq_of_pairwise ?_
      (hascending hother.ascending) (hascending hsorted.ascending)
    intro x y hx hy hle hge
    obtain ⟨a, ha, rfl⟩ := List.mem_map.mp hx
    obtain ⟨b, hb, rfl⟩ := List.mem_map.mp hy
    have hkey : key a = key b := le_antisymm hle hge
    apply Prod.ext hkey
    by_contra hne
    refine hclear ⟨a, ?_, b, hsorted.perm.mem_iff.mp hb, hkey, hne⟩
    exact hperm.mem_iff.mp (hother.perm.mem_iff.mp ha)
  have hread := congrArg (List.map Prod.snd) hpairs
  rw [List.map_map, List.map_map] at hread
  exact hread

/-- Entries with one key stay in the order they are in. -/
theorem sortByKey_swap {a b : α} (hkey : key a = key b) (rest : List α) :
    ∃ before after, sortByKey key (a :: b :: rest) = before ++ a :: b :: after ∧
      sortByKey key (b :: a :: rest) = before ++ b :: a :: after := by
  have hinsert : ∀ x y : α, key x = key y → sortByKey key (x :: y :: rest) =
      (sortByKey key rest).takeWhile (fun z => ¬ key y ≤ key z) ++
        x :: y :: (sortByKey key rest).dropWhile (fun z => ¬ key y ≤ key z) := by
    intro x y hxy
    change List.orderedInsert _ x (List.orderedInsert _ y (sortByKey key rest)) = _
    rw [List.orderedInsert_eq_take_drop _ y, List.orderedInsert_eq_take_drop _ x]
    have hbefore : ∀ z ∈ (sortByKey key rest).takeWhile (fun z => ¬ key y ≤ key z),
        decide (¬ key x ≤ key z) = true := by
      intro z hz
      have hlt := List.mem_takeWhile_imp hz
      rw [hxy]
      exact hlt
    rw [List.takeWhile_append_of_pos hbefore, List.dropWhile_append_of_pos hbefore,
      List.takeWhile_cons_of_neg (by simp [hxy]), List.dropWhile_cons_of_neg (by simp [hxy]),
      List.append_nil]
  have hba := hinsert b a hkey.symm
  have hab := hinsert a b hkey
  rw [hkey] at hba
  exact ⟨_, _, hab, hba⟩

/-- Entries that share a key and read differently are read in two orders. -/
theorem exists_perm_of_ambiguous (h : Ambiguous key read items) :
    ∃ ps qs : List α, ps.Perm items ∧ qs.Perm items ∧
      (sortByKey key ps).map read ≠ (sortByKey key qs).map read := by
  classical
  obtain ⟨a, ha, b, hb, hkey, hread⟩ := h
  have hne : a ≠ b := fun hab => hread (hab ▸ rfl)
  have hb' : b ∈ items.erase a := (List.mem_erase_of_ne hne.symm).mpr hb
  have hperm : (a :: b :: (items.erase a).erase b).Perm items :=
    ((List.perm_cons_erase hb').symm.cons a).trans (List.perm_cons_erase ha).symm
  obtain ⟨before, after, hab, hba⟩ := sortByKey_swap hkey ((items.erase a).erase b)
  refine ⟨_, _, hperm, (List.Perm.swap a b _).trans hperm, ?_⟩
  rw [hab, hba, List.map_append, List.map_append]
  intro heq
  have htail := List.append_cancel_left heq
  exact hread (List.cons.inj htail).1

/-- Whether the sorted readings are the expected ones depends on no order exactly when no
arrangement of ambiguous entries reads as expected. -/
theorem map_sortByKey_eq_iff (key : α → κ) (read : α → β) (items : List α)
    (expected : List β) :
    (∀ others, others.Perm items →
      ((sortByKey key others).map read = expected ↔ (sortByKey key items).map read = expected)) ↔
      (Ambiguous key read items → ∀ arranged, Arranges key items arranged →
        arranged.map read ≠ expected) := by
  constructor
  · intro h hambiguous arranged harranged hexpected
    have hmatch : (sortByKey key arranged).map read = expected := by
      rw [harranged.sortByKey_eq, hexpected]
    have hall : ∀ others, others.Perm items → (sortByKey key others).map read = expected :=
      fun others hperm => (h others hperm).mpr ((h arranged harranged.perm).mp hmatch)
    obtain ⟨ps, qs, hps, hqs, hne⟩ := exists_perm_of_ambiguous hambiguous
    exact hne ((hall ps hps).trans (hall qs hqs).symm)
  · intro h others hperm
    by_cases hambiguous : Ambiguous key read items
    · have hnever := h hambiguous
      have hothers := arranges_sortByKey key others
      refine iff_of_false (hnever _ ⟨hothers.perm.trans hperm, hothers.ascending⟩) ?_
      exact hnever _ (arranges_sortByKey key items)
    · rw [map_sortByKey_eq hambiguous hperm]

end Admissorium.JavaScript.KeySort
