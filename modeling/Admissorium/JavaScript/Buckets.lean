import Admissorium.JavaScript.Values
import Mathlib.Data.List.Induction
import Mathlib.Data.List.Nodup

/-!
# Maps of buckets

A `Map` from text to lists, filled one item at a time and read in the order of first
insertion. The bucket of a key holds the items with that key, in their order, and there is
more than one bucket exactly when two items have different keys.
-/
namespace Admissorium.JavaScript.Buckets
set_option autoImplicit false

variable {α : Type}

/-- `bucket = map.get(key) ?? []; bucket.push(item); map.set(key, bucket)`. -/
def add : List (String × List α) → String → α → List (String × List α)
  | [], key, item => [(key, [item])]
  | (name, bucket) :: rest, key, item =>
      if name = key then (name, bucket ++ [item]) :: rest
      else (name, bucket) :: add rest key item

def collect (f : α → String) (items : List α) : List (String × List α) :=
  items.foldl (fun map item => add map (f item) item) []

theorem lookup_add (map : List (String × List α)) (key : String) (item : α) (name : String) :
    (add map key item).lookup name =
      if name = key then some ((map.lookup key).getD [] ++ [item]) else map.lookup name := by
  induction map with
  | nil =>
      rw [add, lookup_cons_ite, List.lookup_nil, List.lookup_nil]
      rfl
  | cons entry rest ih =>
      obtain ⟨other, bucket⟩ := entry
      by_cases hother : other = key
      · subst hother
        rw [add, if_pos rfl, lookup_cons_ite, lookup_cons_ite, if_pos rfl, Option.getD_some,
          lookup_cons_ite]
        split <;> rfl
      · rw [add, if_neg hother, lookup_cons_ite, lookup_cons_ite, lookup_cons_ite, ih,
          if_neg (Ne.symm hother)]
        by_cases h : name = other
        · subst h
          rw [if_pos rfl, if_neg hother, if_pos rfl]
        · rw [if_neg h, if_neg h]

theorem keys_add (map : List (String × List α)) (key : String) (item : α) :
    (add map key item).map Prod.fst =
      if key ∈ map.map Prod.fst then map.map Prod.fst else map.map Prod.fst ++ [key] := by
  induction map with
  | nil => rfl
  | cons entry rest ih =>
      obtain ⟨other, bucket⟩ := entry
      by_cases hother : other = key
      · simp [add, hother]
      · have hne : ¬ key = other := fun h => hother h.symm
        simp only [add, if_neg hother, List.map_cons, ih, List.mem_cons, hne, false_or]
        split <;> rfl

theorem nodup_add {map : List (String × List α)} (h : (map.map Prod.fst).Nodup) (key : String)
    (item : α) : ((add map key item).map Prod.fst).Nodup := by
  rw [keys_add]
  by_cases hk : key ∈ map.map Prod.fst
  · rw [if_pos hk]
    exact h
  · rw [if_neg hk]
    exact List.Nodup.append h (List.nodup_singleton key) (by simpa using hk)

variable (f : α → String)

theorem collect_append (items : List α) (item : α) :
    collect f (items ++ [item]) = add (collect f items) (f item) item := by
  rw [collect, List.foldl_append]
  rfl

theorem nodup_collect (items : List α) : ((collect f items).map Prod.fst).Nodup := by
  induction items using List.reverseRecOn with
  | nil => exact List.nodup_nil
  | append_singleton items item ih =>
      rw [collect_append]
      exact nodup_add ih _ _

theorem mem_keys_collect (items : List α) (key : String) :
    key ∈ (collect f items).map Prod.fst ↔ ∃ item ∈ items, f item = key := by
  induction items using List.reverseRecOn generalizing key with
  | nil => simp [collect]
  | append_singleton items item ih =>
      have hlast : (∃ other ∈ items ++ [item], f other = key) ↔
          (∃ other ∈ items, f other = key) ∨ key = f item := by
        simp [or_and_right, exists_or, eq_comm]
      rw [collect_append, keys_add, hlast, ← ih]
      by_cases hk : f item ∈ (collect f items).map Prod.fst
      · rw [if_pos hk]
        constructor
        · exact Or.inl
        · rintro (h | rfl)
          · exact h
          · exact hk
      · rw [if_neg hk, List.mem_append, List.mem_singleton]

/-- The bucket of a key holds the items with that key. -/
theorem lookup_collect (items : List α) (key : String) :
    ((collect f items).lookup key).getD [] = items.filter (fun item => f item = key) := by
  induction items using List.reverseRecOn with
  | nil => rfl
  | append_singleton items item ih =>
      rw [collect_append, lookup_add, List.filter_append, ← ih]
      by_cases h : f item = key
      · rw [if_pos h.symm, Option.getD_some, h]
        simp [h]
      · rw [if_neg (Ne.symm h)]
        simp [h]

theorem mem_collect {items : List α} {key : String} {bucket : List α}
    (h : (key, bucket) ∈ collect f items) : bucket = items.filter (fun item => f item = key) := by
  have hlookup := (lookup_eq_some_iff_mem (nodup_collect f items) key bucket).mpr h
  rw [← lookup_collect, hlookup, Option.getD_some]

/-- There is more than one bucket when two items have different keys. -/
theorem one_lt_length_collect_iff (items : List α) :
    1 < (collect f items).length ↔ ∃ a ∈ items, ∃ b ∈ items, f a ≠ f b := by
  have hkeys := mem_keys_collect f items
  have hnodup := nodup_collect f items
  rw [← List.length_map Prod.fst]
  generalize (collect f items).map Prod.fst = keys at hkeys hnodup
  constructor
  · intro h
    match keys, h with
    | first :: second :: rest, _ =>
        obtain ⟨a, ha, hfa⟩ := (hkeys first).mp (by simp)
        obtain ⟨b, hb, hfb⟩ := (hkeys second).mp (by simp)
        refine ⟨a, ha, b, hb, ?_⟩
        rw [hfa, hfb]
        intro he
        rw [he, List.nodup_cons] at hnodup
        exact hnodup.1 (by simp)
  · intro h
    obtain ⟨a, ha, b, hb, hne⟩ := h
    have hma := (hkeys (f a)).mpr ⟨a, ha, rfl⟩
    have hmb := (hkeys (f b)).mpr ⟨b, hb, rfl⟩
    match keys with
    | [] => cases hma
    | [only] =>
        rw [List.mem_singleton] at hma hmb
        exact absurd (hma.trans hmb.symm) hne
    | _ :: _ :: _ => simp

end Admissorium.JavaScript.Buckets
