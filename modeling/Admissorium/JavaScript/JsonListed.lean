import Admissorium.JavaScript.JsonOrder

/-!
# `JSON.stringify` with a list of keys

The list holds for every object inside the value, whatever its depth: each of them shows
the listed keys it has, in the order of the list, and nothing else.
-/
namespace Admissorium.JavaScript.Json
set_option autoImplicit false

/-- An object without a `__proto__` of its own inherits one, of which the list shows that
same property, `null` there. The other names of `Object.prototype` are functions, which
have no text. -/
def inheritedMember (key : String) : Option (String × Value) :=
  if key = "__proto__" then some (key, .obj [("__proto__", .null)]) else none

def listedMember (fields : List (String × Value)) (key : String) : Option (String × Value) :=
  match fields.lookup key with
  | some v => some (key, v)
  | none => inheritedMember key

mutual
/-- What the list shows of a value. -/
def listed (keys : List String) : Value → Value
  | .arr items => .arr (listedItems keys items)
  | .obj fields => .obj (keys.filterMap (listedMember (listedFields keys fields)))
  | v => v

def listedItems (keys : List String) : List Value → List Value
  | [] => []
  | v :: rest => listed keys v :: listedItems keys rest

def listedFields (keys : List String) : List (String × Value) → List (String × Value)
  | [] => []
  | (key, v) :: rest => (key, listed keys v) :: listedFields keys rest
end

/-- `JSON.stringify(value, keys)`. -/
def stringifyListed (rt : Runtime) (v : Value) (keys : List String) : Option String :=
  stringify rt (listed keys v)

section Listed
variable (keys : List String)

theorem listedItems_eq_map (items : List Value) :
    listedItems keys items = items.map (listed keys) := by
  induction items with
  | nil => rfl
  | cons v rest ih => rw [listedItems, ih, List.map_cons]

theorem lookup_listedFields (fields : List (String × Value)) (key : String) :
    (listedFields keys fields).lookup key = (fields.lookup key).map (listed keys) := by
  induction fields with
  | nil => rfl
  | cons field rest ih =>
      obtain ⟨name, v⟩ := field
      rw [listedFields, lookup_cons_ite, lookup_cons_ite, ih]
      split <;> rfl

theorem mem_listedFields {fields : List (String × Value)} {key : String} {v : Value}
    (h : (listedFields keys fields).lookup key = some v) :
    ∃ field ∈ fields, v = listed keys field.2 := by
  rw [lookup_listedFields, Option.map_eq_some_iff] at h
  obtain ⟨w, hw, rfl⟩ := h
  obtain ⟨before, after, rfl, _⟩ := List.lookup_eq_some_iff.mp hw
  exact ⟨(key, w), by simp, rfl⟩

theorem fst_listedMember {fields : List (String × Value)} {key : String} {member : String × Value}
    (h : listedMember fields key = some member) : member.1 = key := by
  unfold listedMember inheritedMember at h
  split at h
  · cases h
    rfl
  · split at h
    · cases h
      rfl
    · cases h

theorem nodup_listedMembers {keys : List String} (h : keys.Nodup)
    (fields : List (String × Value)) :
    ((keys.filterMap (listedMember fields)).map Prod.fst).Nodup := by
  have hsub : ((keys.filterMap (listedMember fields)).map Prod.fst).Sublist keys := by
    induction keys with
    | nil => exact List.Sublist.slnil
    | cons key rest ih =>
        rw [List.nodup_cons] at h
        cases hm : listedMember fields key with
        | none =>
            rw [List.filterMap_cons_none hm]
            exact (ih h.2).cons key
        | some member =>
            rw [List.filterMap_cons_some hm, List.map_cons, fst_listedMember hm]
            exact (ih h.2).cons_cons key
  exact h.sublist hsub

/-- What a list of distinct keys shows of a JSON value is a JSON value. -/
theorem isJson_listed {keys : List String} (hk : keys.Nodup) {v : Value} (hv : IsJson v) :
    IsJson (listed keys v) := by
  induction v using Value.induction with
  | arr items ih =>
      rw [isJson_arr] at hv
      rw [listed, listedItems_eq_map, isJson_arr]
      intro w hw
      obtain ⟨v, hm, rfl⟩ := List.mem_map.mp hw
      exact ih v hm (hv v hm)
  | obj fields ih =>
      rw [isJson_obj] at hv
      rw [listed, isJson_obj]
      refine ⟨nodup_listedMembers hk _, ?_⟩
      intro member hm
      obtain ⟨key, _, hkey⟩ := List.mem_filterMap.mp hm
      unfold listedMember at hkey
      split at hkey
      · rename_i w hw
        cases hkey
        obtain ⟨field, hf, rfl⟩ := mem_listedFields keys hw
        exact ih field hf (hv.2 field hf)
      · unfold inheritedMember at hkey
        split at hkey
        · cases hkey
          exact (isJson_obj _).mpr (by simp [IsJson])
        · cases hkey
  | _ => exact hv

theorem map_eq_of_forall₂_same {f : Value → Value} {items others : List Value}
    (h : List.Forall₂ Same items others)
    (hf : ∀ v ∈ items, ∀ w ∈ others, Same v w → f v = f w) : items.map f = others.map f := by
  induction h with
  | nil => rfl
  | cons hvw _ ih =>
      rw [List.map_cons, List.map_cons, hf _ (by simp) _ (by simp) hvw,
        ih (fun v hv w hw => hf v (by simp [hv]) w (by simp [hw]))]

/-- The list shows the same of values that are the same up to the order of keys. -/
theorem listed_eq_of_same {v w : Value} (hv : IsJson v) (hw : IsJson w) (h : Same v w) :
    listed keys v = listed keys w := by
  induction v using Value.induction generalizing w with
  | undefined => exact hv.elim
  | arr items ih =>
      cases w with
      | arr others =>
          rw [isJson_arr] at hv hw
          rw [Same, sameItems_iff] at h
          rw [listed, listed, listedItems_eq_map, listedItems_eq_map, Value.arr.injEq]
          exact map_eq_of_forall₂_same h
            (fun v hm w ho hs => ih v hm (hv v hm) (hw w ho) hs)
      | _ => simp [Same] at h
  | obj fields ih =>
      cases w with
      | obj others =>
          have hperm := keys_perm_of_same hv hw h
          rw [isJson_obj] at hv hw
          rw [Same, sameFields_iff] at h
          rw [listed, listed, Value.obj.injEq]
          refine List.filterMap_congr (fun key _ => ?_)
          have hlookup : (fields.lookup key).map (listed keys) =
              (others.lookup key).map (listed keys) := by
            cases hf : fields.lookup key with
            | some v =>
                have hm := (lookup_eq_some_iff_mem hv.1 key v).mp hf
                obtain ⟨w, ho, hs⟩ := h.2 _ hm
                rw [(lookup_eq_some_iff_mem hw.1 key w).mpr ho, Option.map_some, Option.map_some,
                  ih _ hm (hv.2 _ hm) (hw.2 _ ho) hs]
            | none =>
                cases ho : others.lookup key with
                | none => rfl
                | some w =>
                    have hm := (lookup_eq_some_iff_mem hw.1 key w).mp ho
                    have hkey := hperm.symm.subset (List.mem_map.mpr ⟨_, hm, rfl⟩)
                    obtain ⟨field, hmf, rfl⟩ := List.mem_map.mp hkey
                    have hsome := (lookup_eq_some_iff_mem hv.1 field.1 field.2).mpr hmf
                    cases hf.symm.trans hsome
          rw [listedMember, listedMember, lookup_listedFields, lookup_listedFields, hlookup]
      | _ => simp [Same] at h
  | _ => cases w <;> simp_all [Same]

end Listed

end Admissorium.JavaScript.Json
