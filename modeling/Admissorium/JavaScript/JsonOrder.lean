import Admissorium.JavaScript.JsonText
import Mathlib.Data.List.Lex
import Mathlib.Data.List.Sort

/-!
# JSON values up to the order of keys

Two JSON values are the same up to the order of keys when they have the same kind, the
same items in the same places, and under each key the same value. Sorting the keys of
every object picks one value of each such class.
-/
namespace Admissorium.JavaScript.Json
set_option autoImplicit false

open Text

mutual
/-- Equality up to the order of the keys of an object. -/
def Same : Value → Value → Prop
  | .arr items, .arr others => SameItems items others
  | .obj fields, .obj others => fields.length = others.length ∧ SameFields fields others
  | v, w => v = w

def SameItems : List Value → List Value → Prop
  | [], [] => True
  | v :: rest, w :: others => Same v w ∧ SameItems rest others
  | _, _ => False

/-- Every field has its like among the others. -/
def SameFields : List (String × Value) → List (String × Value) → Prop
  | [], _ => True
  | (key, v) :: rest, others => (∃ w, (key, w) ∈ others ∧ Same v w) ∧ SameFields rest others
end

theorem sameItems_iff (items others : List Value) :
    SameItems items others ↔ List.Forall₂ Same items others := by
  induction items generalizing others with
  | nil => cases others <;> simp [SameItems]
  | cons v rest ih =>
      cases others with
      | nil => simp [SameItems]
      | cons w others => rw [SameItems, ih, List.forall₂_cons]

theorem sameFields_iff (fields others : List (String × Value)) :
    SameFields fields others ↔
      ∀ field ∈ fields, ∃ w, (field.1, w) ∈ others ∧ Same field.2 w := by
  induction fields with
  | nil => simp [SameFields]
  | cons field rest ih =>
      obtain ⟨key, v⟩ := field
      rw [SameFields, ih, List.forall_mem_cons]

/-! ## Sorted keys -/

/-- Texts are ordered by their code units. -/
def textLe (a b : String) : Prop := units a ≤ units b

instance : DecidableRel textLe := fun a b => inferInstanceAs (Decidable (units a ≤ units b))

instance : IsTrans String textLe := ⟨fun _ _ _ h k => le_trans h k⟩

instance : Std.Total textLe := ⟨fun a b => le_total (units a) (units b)⟩

theorem textLe_antisymm {a b : String} (hab : textLe a b) (hba : textLe b a) : a = b :=
  units_injective (le_antisymm hab hba)

/-- Keys are ordered by their code units. -/
def keyLe {α : Type} (a b : String × α) : Prop := units a.1 ≤ units b.1

instance {α : Type} : DecidableRel (keyLe (α := α)) :=
  fun a b => inferInstanceAs (Decidable (units a.1 ≤ units b.1))

instance {α : Type} : IsTrans (String × α) keyLe := ⟨fun _ _ _ h k => le_trans h k⟩

instance {α : Type} : Std.Total (keyLe (α := α)) := ⟨fun a b => le_total (units a.1) (units b.1)⟩

mutual
/-- The value with the keys of every object in order. -/
def sortKeys : Value → Value
  | .arr items => .arr (sortItems items)
  | .obj fields => .obj ((sortFields fields).insertionSort keyLe)
  | v => v

def sortItems : List Value → List Value
  | [] => []
  | v :: rest => sortKeys v :: sortItems rest

def sortFields : List (String × Value) → List (String × Value)
  | [] => []
  | (key, v) :: rest => (key, sortKeys v) :: sortFields rest
end

/-- One field with its value sorted. -/
def sortField (field : String × Value) : String × Value := (field.1, sortKeys field.2)

theorem sortItems_eq_map (items : List Value) : sortItems items = items.map sortKeys := by
  induction items with
  | nil => rfl
  | cons v rest ih => rw [sortItems, ih, List.map_cons]

theorem sortFields_eq_map (fields : List (String × Value)) :
    sortFields fields = fields.map sortField := by
  induction fields with
  | nil => rfl
  | cons field rest ih =>
      obtain ⟨key, v⟩ := field
      rw [sortFields, ih, List.map_cons, sortField]

theorem keys_map_sortField (fields : List (String × Value)) :
    (fields.map sortField).map Prod.fst = fields.map Prod.fst := by
  rw [List.map_map]
  rfl

/-- Sorting forgets the order, where the relation tells the members apart. -/
theorem insertionSort_eq_of_perm {α : Type} (r : α → α → Prop) [DecidableRel r] [IsTrans α r]
    [Std.Total r] {a b : List α} (hanti : ∀ x ∈ a, ∀ y ∈ a, r x y → r y x → x = y)
    (h : a.Perm b) : a.insertionSort r = b.insertionSort r := by
  have hboth : (a.insertionSort r).Perm (b.insertionSort r) :=
    (List.perm_insertionSort r a).trans (h.trans (List.perm_insertionSort r b).symm)
  refine List.Perm.eq_of_pairwise ?_ (List.pairwise_insertionSort r a)
    (List.pairwise_insertionSort r b) hboth
  intro x y hx hy hxy hyx
  exact hanti x ((List.mem_insertionSort r).mp hx) y
    (h.symm.subset ((List.mem_insertionSort r).mp hy)) hxy hyx

/-- Lists with the same entries and no key twice are the same once sorted. -/
theorem insertionSort_keyLe_inj {α : Type} {a b : List (String × α)}
    (ha : (a.map Prod.fst).Nodup) :
    a.insertionSort keyLe = b.insertionSort keyLe ↔ a.Perm b := by
  constructor
  · intro h
    have hsorted := List.perm_insertionSort keyLe a
    rw [h] at hsorted
    exact hsorted.symm.trans (List.perm_insertionSort keyLe b)
  · refine insertionSort_eq_of_perm keyLe (fun x hx y hy hxy hyx => ?_)
    exact List.inj_on_of_nodup_map ha hx hy (textLe_antisymm hxy hyx)

/-- The same fields up to their order, by the sorted values under each key. -/
theorem map_sortField_perm_iff {fields others : List (String × Value)}
    (hf : (fields.map Prod.fst).Nodup) :
    (fields.map sortField).Perm (others.map sortField) ↔
      fields.length = others.length ∧
        ∀ field ∈ fields, ∃ w, (field.1, w) ∈ others ∧ sortKeys field.2 = sortKeys w := by
  constructor
  · intro h
    have hlength := h.length_eq
    rw [List.length_map, List.length_map] at hlength
    refine ⟨hlength, ?_⟩
    intro field hm
    obtain ⟨other, ho, he⟩ := List.mem_map.mp (h.subset (List.mem_map_of_mem hm))
    obtain ⟨hkey, hvalue⟩ := Prod.mk.inj he
    exact ⟨other.2, by rw [← hkey]; exact ho, hvalue.symm⟩
  · intro h
    obtain ⟨hlength, hevery⟩ := h
    have hnodup : (fields.map sortField).Nodup := by
      apply List.Nodup.of_map Prod.fst
      rw [keys_map_sortField]
      exact hf
    have hsubset : fields.map sortField ⊆ others.map sortField := by
      intro x hx
      obtain ⟨field, hm, rfl⟩ := List.mem_map.mp hx
      obtain ⟨w, hw, he⟩ := hevery field hm
      exact List.mem_map.mpr ⟨_, hw, by rw [sortField, sortField, he]⟩
    exact (List.subperm_of_subset hnodup hsubset).perm_of_length_le (by simp [hlength])

theorem forall₂_same_iff {items others : List Value}
    (h : ∀ v ∈ items, ∀ w ∈ others, Same v w ↔ sortKeys v = sortKeys w) :
    List.Forall₂ Same items others ↔ items.map sortKeys = others.map sortKeys := by
  induction items generalizing others with
  | nil => cases others <;> simp
  | cons v items ih =>
      cases others with
      | nil => simp
      | cons w others =>
          have hrest : List.Forall₂ Same items others ↔ _ :=
            ih (fun a ha b hb => h a (by simp [ha]) b (by simp [hb]))
          rw [List.forall₂_cons, hrest, h v (by simp) w (by simp), List.map_cons, List.map_cons,
            List.cons.injEq]

/-- Sorting the keys of every object decides equality up to their order. -/
theorem same_iff_sortKeys {v w : Value} (hv : IsJson v) (hw : IsJson w) :
    Same v w ↔ sortKeys v = sortKeys w := by
  induction v using Value.induction generalizing w with
  | undefined => exact hv.elim
  | null => cases w <;> simp [Same, sortKeys]
  | bool b => cases w <;> simp [Same, sortKeys]
  | num q => cases w <;> simp [Same, sortKeys]
  | str s => cases w <;> simp [Same, sortKeys]
  | arr items ih =>
      cases w with
      | arr others =>
          rw [isJson_arr] at hv hw
          rw [Same, sameItems_iff, sortKeys, sortKeys, sortItems_eq_map, sortItems_eq_map,
            Value.arr.injEq]
          exact forall₂_same_iff (fun v hm w ho => ih v hm (hv v hm) (hw w ho))
      | _ => simp [Same, sortKeys]
  | obj fields ih =>
      cases w with
      | obj others =>
          rw [isJson_obj] at hv hw
          have hkeys : ((fields.map sortField).map Prod.fst).Nodup := by
            rw [keys_map_sortField]
            exact hv.1
          rw [Same, sameFields_iff, sortKeys, sortKeys, sortFields_eq_map, sortFields_eq_map,
            Value.obj.injEq, insertionSort_keyLe_inj hkeys, map_sortField_perm_iff hv.1]
          apply and_congr_right
          intro _
          refine forall₂_congr (fun field hm => exists_congr (fun w => ?_))
          exact and_congr_right (fun ho => ih field hm (hv.2 field hm) (hw.2 _ ho))
      | _ => simp [Same, sortKeys]

/-- Objects that are the same have the same keys. -/
theorem keys_perm_of_same {fields others : List (String × Value)} (hv : IsJson (.obj fields))
    (hw : IsJson (.obj others)) (h : Same (.obj fields) (.obj others)) :
    (fields.map Prod.fst).Perm (others.map Prod.fst) := by
  rw [same_iff_sortKeys hv hw, sortKeys, sortKeys, sortFields_eq_map, sortFields_eq_map,
    Value.obj.injEq] at h
  have hkeys : ((fields.map sortField).map Prod.fst).Nodup := by
    rw [keys_map_sortField]
    exact ((isJson_obj _).mp hv).1
  have hperm := ((insertionSort_keyLe_inj hkeys).mp h).map Prod.fst
  rw [keys_map_sortField, keys_map_sortField] at hperm
  exact hperm

theorem isJson_sortKeys {v : Value} (hv : IsJson v) : IsJson (sortKeys v) := by
  induction v using Value.induction with
  | arr items ih =>
      rw [isJson_arr] at hv
      rw [sortKeys, sortItems_eq_map, isJson_arr]
      intro w hw
      obtain ⟨v, hm, rfl⟩ := List.mem_map.mp hw
      exact ih v hm (hv v hm)
  | obj fields ih =>
      rw [isJson_obj] at hv
      rw [sortKeys, sortFields_eq_map, isJson_obj]
      constructor
      · have hperm := (List.perm_insertionSort keyLe (fields.map sortField)).map Prod.fst
        rw [keys_map_sortField] at hperm
        exact hperm.nodup_iff.mpr hv.1
      · intro field hfield
        obtain ⟨field, hm, rfl⟩ := List.mem_map.mp ((List.mem_insertionSort keyLe).mp hfield)
        exact ih field hm (hv.2 field hm)
  | _ => exact hv

end Admissorium.JavaScript.Json
