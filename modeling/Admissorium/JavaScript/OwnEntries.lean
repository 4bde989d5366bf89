import Admissorium.JavaScript.Values
import Mathlib.Data.List.Nodup

/-!
# The entries of a plain object

`Object.entries` lists every own property once. A loop over the entries that writes each key
into what it pushes can be read back key by key (`filter_flatMap_eq`).
-/
namespace Admissorium.JavaScript
set_option autoImplicit false

/-- A plain object, by the list of its entries. -/
structure OwnEntries (α : Type) where
  items : List (String × α)
  distinct : (items.map Prod.fst).Nodup

namespace OwnEntries
variable {α β : Type}

def get (entries : OwnEntries α) (key : String) : Option α := entries.items.lookup key

theorem get_eq_some_iff (entries : OwnEntries α) (key : String) (a : α) :
    entries.get key = some a ↔ (key, a) ∈ entries.items :=
  lookup_eq_some_iff_mem entries.distinct key a

/-- Of what the entries yield, only the entry of a key yields what is found under the key. -/
theorem filter_flatMap_eq {items : List (String × α)} (hdistinct : (items.map Prod.fst).Nodup)
    (g : String × α → List β) (p : String → β → Bool)
    (hother : ∀ entry key, entry.1 ≠ key → (g entry).filter (p key) = []) (key : String) :
    (items.flatMap g).filter (p key) =
      ((items.lookup key).map fun a => (g (key, a)).filter (p key)).getD [] := by
  induction items with
  | nil => rfl
  | cons entry rest ih =>
      obtain ⟨name, a⟩ := entry
      rw [List.map_cons, List.nodup_cons] at hdistinct
      rw [List.flatMap_cons, List.filter_append, ih hdistinct.2, lookup_cons_ite]
      by_cases hname : key = name
      · subst hname
        have hrest : rest.lookup key = none := by
          by_contra hsome
          obtain ⟨other, hlookup⟩ := Option.ne_none_iff_exists'.mp hsome
          have hmem := (lookup_eq_some_iff_mem hdistinct.2 key other).mp hlookup
          exact hdistinct.1 (List.mem_map.mpr ⟨_, hmem, rfl⟩)
        rw [if_pos rfl, hrest, Option.map_none, Option.getD_none, List.append_nil, Option.map_some,
          Option.getD_some]
      · rw [if_neg hname, hother (name, a) key (Ne.symm hname), List.nil_append]

end OwnEntries

end Admissorium.JavaScript
