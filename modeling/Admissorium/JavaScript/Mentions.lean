import Admissorium.JavaScript.Structural

/-!
# Phrases in a JSON text

`JSON.stringify(value).includes(phrase)` for a phrase that JSON syntax neither contains nor
cuts: the text includes it exactly when a key, a string or a number of the value does.
-/
namespace Admissorium.JavaScript.Json
set_option autoImplicit false

/-- Whether a member with this value is written. -/
def defined : Value → Bool
  | .undefined => false
  | _ => true

mutual
/-- Some key, string or number, as JSON writes it, includes the phrase. -/
def mentions (rt : Runtime) (phrase : String) : Value → Bool
  | .undefined | .null | .bool _ => false
  | .num q => Text.includes (rt.numberToString q) phrase
  | .str s => Text.includes (quote s) phrase
  | .arr items => mentionsItem rt phrase items
  | .obj fields => mentionsField rt phrase fields

def mentionsItem (rt : Runtime) (phrase : String) : List Value → Bool
  | [] => false
  | v :: rest => mentions rt phrase v || mentionsItem rt phrase rest

def mentionsField (rt : Runtime) (phrase : String) : List (String × Value) → Bool
  | [] => false
  | (key, v) :: rest =>
      (defined v && Text.includes (quote key) phrase || mentions rt phrase v) ||
        mentionsField rt phrase rest
end

/-- A phrase that JSON syntax neither contains nor cuts. -/
structure Unstructured (phrase : String) : Prop where
  ne_empty : phrase ≠ ""
  structural : ∀ d ∈ structural, d ∉ phrase.toList
  colon : ':' ∉ phrase.toList
  null : Text.includes "null" phrase = false
  bool : ∀ b : Bool, Text.includes (if b then "true" else "false") phrase = false

variable {rt : Runtime} {phrase : String}

theorem stringify_eq_none_iff (v : Value) : stringify rt v = none ↔ defined v = false := by
  cases v <;> simp [stringify, defined]

/-- The text of a value includes what the value mentions; no text is included in none. -/
def Shows (rt : Runtime) (phrase : String) (v : Value) : Prop :=
  (stringify rt v).elim false (fun text => Text.includes text phrase) = mentions rt phrase v

theorem Shows.element (h : Unstructured phrase) {v : Value} (hv : Shows rt phrase v) :
    Text.includes ((stringify rt v).getD "null") phrase = mentions rt phrase v := by
  rw [← hv]
  cases stringify rt v with
  | none => exact h.null
  | some text => rfl

theorem any_elements (h : Unstructured phrase) {items : List Value}
    (hitems : ∀ v ∈ items, Shows rt phrase v) :
    (elements rt items).any (fun text => Text.includes text phrase) =
      mentionsItem rt phrase items := by
  induction items with
  | nil => rfl
  | cons v rest ih =>
      obtain ⟨hv, hrest⟩ := List.forall_mem_cons.mp hitems
      rw [elements, List.any_cons, mentionsItem, hv.element h, ih hrest]

theorem any_members (h : Unstructured phrase) {fields : List (String × Value)}
    (hfields : ∀ field ∈ fields, Shows rt phrase field.2) :
    (members rt fields).any (fun text => Text.includes text phrase) =
      mentionsField rt phrase fields := by
  induction fields with
  | nil => rfl
  | cons field rest ih =>
      obtain ⟨key, v⟩ := field
      obtain ⟨hv, hrest⟩ := List.forall_mem_cons.mp hfields
      rw [members, mentionsField, ← ih hrest]
      have hshows : (stringify rt v).elim false (fun text => Text.includes text phrase) =
          mentions rt phrase v := hv
      cases htext : stringify rt v with
      | none =>
          rw [htext] at hshows
          rw [(stringify_eq_none_iff v).mp htext, ← hshows]
          rfl
      | some text =>
          have hdefined : defined v = true := by
            by_contra hnot
            have hnone : stringify rt v = none :=
              (stringify_eq_none_iff v).mpr (Bool.eq_false_of_not_eq_true hnot)
            rw [htext] at hnone
            cases hnone
          have hmember : quote key ++ ":" ++ text = quote key ++ String.singleton ':' ++ text := rfl
          rw [htext] at hshows
          rw [List.any_cons, hmember, Text.includes_barrier h.colon, hdefined, Bool.true_and, ← hshows]
          rfl

/-- A value shows what it mentions. -/
theorem shows (h : Unstructured phrase) (rt : Runtime) (v : Value) : Shows rt phrase v := by
  have hlocal := Local.includes h.ne_empty h.structural
  induction v using Value.induction with
  | undefined => rfl
  | null => exact h.null
  | bool b => exact h.bool b
  | num q => rfl
  | str s => rfl
  | arr items ih =>
      have harray := hlocal.array "" (elements rt items)
      rw [String.empty_append, hlocal.empty, Bool.false_or] at harray
      exact harray.trans (any_elements h ih)
  | obj fields ih =>
      have hobject := hlocal.object "" (members rt fields)
      rw [String.empty_append, hlocal.empty, Bool.false_or] at hobject
      exact hobject.trans (any_members h ih)

/-- The text of an object includes a phrase that a key or a value of it mentions. -/
theorem includes_stringify_obj (h : Unstructured phrase) {fields : List (String × Value)}
    {text : String} (ht : stringify rt (.obj fields) = some text) :
    Text.includes text phrase = mentions rt phrase (.obj fields) := by
  have hshows : (stringify rt (.obj fields)).elim false (fun text => Text.includes text phrase) =
      mentions rt phrase (.obj fields) := shows h rt (.obj fields)
  rw [ht] at hshows
  exact hshows

end Admissorium.JavaScript.Json
