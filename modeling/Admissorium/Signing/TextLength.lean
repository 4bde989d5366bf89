import Admissorium.JavaScript.JsonPretty
import Admissorium.Signing.Replay
import Mathlib.Algebra.Order.BigOperators.Group.List
import Mathlib.Algebra.Order.Ring.Nat

/-!
# The length of a canonical text

The keys of an object are put in order in its canonical text, which leaves the length alone: it
is the sum of the lengths of the members, and of the marks between and around them. Two texts of
different lengths are two texts.
-/
namespace Admissorium.Signing.TextLength
set_option autoImplicit false

open JavaScript Json Replay

/-- The length of the texts and of a comma behind each. -/
def listedLength (texts : List String) : Nat := (texts.map (fun text => text.length + 1)).sum

theorem length_intercalate (texts : List String) :
    (",".intercalate texts).length = listedLength texts - 1 := by
  induction texts with
  | nil => rfl
  | cons text rest ih =>
      cases rest with
      | nil =>
          rw [String.intercalate_singleton, listedLength, List.map_singleton, List.sum_singleton,
            Nat.add_sub_cancel]
      | cons next rest =>
          have hcomma : ",".length = 1 := by decide
          have hlisted : listedLength (text :: next :: rest) =
              text.length + 1 + listedLength (next :: rest) := List.sum_cons
          have hpos : 0 < listedLength (next :: rest) := by
            rw [listedLength, List.map_cons, List.sum_cons]
            omega
          rw [String.intercalate_cons_cons, String.length_append, String.length_append, ih, hcomma,
            hlisted]
          omega

theorem listedLength_sorted (entries : List (String × String)) (f : String × String → String) :
    listedLength ((entries.insertionSort keyBefore).map f) = listedLength (entries.map f) :=
  (((entries.perm_insertionSort keyBefore).map f).map (fun text : String => text.length + 1)).sum_eq

section Lengths
variable {rt : Runtime}

def textLength (rt : Runtime) (v : Value) : Nat := ((canonicalJson rt v).getD "undefined").length

/-- The length of a member and of a comma behind it. -/
def memberLength (rt : Runtime) (field : String × Value) : Nat :=
  (quote field.1).length + textLength rt field.2 + 2

theorem canonicalJson_of_defined {v : Value} (h : v ≠ .undefined) :
    canonicalJson rt v = some ((canonicalJson rt v).getD "undefined") := by
  cases v with
  | undefined => exact absurd rfl h
  | _ => rfl

theorem textLength_arr {items : List Value} (h : ∀ v ∈ items, v ≠ .undefined) :
    textLength rt (.arr items) = max 2 ((items.map (fun v => textLength rt v + 1)).sum + 1) := by
  have hlisted : listedLength (canonicalItems rt items) =
      (items.map (fun v => textLength rt v + 1)).sum := by
    rw [listedLength, canonicalItems_eq_map, List.map_map]
    refine congrArg List.sum (List.map_congr_left fun v hv => ?_)
    rw [Function.comp_apply, canonicalJson_of_defined (h v hv), Option.getD_some, textLength]
  have hbrackets : "[".length = 1 ∧ "]".length = 1 := by decide
  rw [textLength, canonicalJson, Option.getD_some, String.length_append, String.length_append,
    length_intercalate, hlisted, hbrackets.1, hbrackets.2]
  omega

theorem textLength_obj (fields : Fields) :
    textLength rt (.obj fields) = max 2 ((fields.map (memberLength rt)).sum + 1) := by
  have hlisted : listedLength ((canonicalFields rt fields).map
      (fun field => quote field.1 ++ ":" ++ field.2)) = (fields.map (memberLength rt)).sum := by
    have hcolon : ":".length = 1 := by decide
    rw [listedLength, canonicalFields_eq_map, List.map_map, List.map_map]
    refine congrArg List.sum (List.map_congr_left fun field _ => ?_)
    change (quote field.1 ++ ":" ++ (canonicalJson rt field.2).getD "undefined").length + 1 = _
    rw [String.length_append, String.length_append, hcolon, memberLength, textLength]
    omega
  have hbraces : "\x7b".length = 1 ∧ "\x7d".length = 1 := by decide
  rw [textLength, canonicalJson, Option.getD_some, String.length_append, String.length_append,
    length_intercalate, listedLength_sorted, hlisted, hbraces.1, hbraces.2]
  omega

end Lengths

/-! ## What is gone shortens the canonical text -/

/-- Lists of lengths, where those that differ are shorter in the first. -/
theorem max_sum_lt {ι : Type} {items : List ι} {f g : ι → Nat} (h : ∀ i ∈ items, f i = g i ∨ f i < g i)
    {i : ι} (hi : i ∈ items) (hlt : f i < g i) (hg : 2 ≤ g i) :
    max 2 ((items.map f).sum + 1) < max 2 ((items.map g).sum + 1) := by
  have hle : ∀ i ∈ items, f i ≤ g i := fun i hi => (h i hi).elim le_of_eq le_of_lt
  have hsum : (items.map f).sum < (items.map g).sum := List.sum_lt_sum f g hle ⟨i, hi, hlt⟩
  have hone : g i ≤ (items.map g).sum := List.le_sum_of_mem (List.mem_map_of_mem hi)
  omega

section Lengths
variable {rt : Runtime}

/-- What a member has left of its length. -/
def keptLength (rt : Runtime) : String × Value → Nat
  | (_, .undefined) => 0
  | (key, v) => memberLength rt (key, cleaned v)

theorem keptLength_of_defined {v : Value} (h : v ≠ .undefined) (key : String) :
    keptLength rt (key, v) = memberLength rt (key, cleaned v) := by
  cases v with
  | undefined => exact absurd rfl h
  | _ => rfl

theorem sum_cleanedFields (fields : Fields) :
    ((cleanedFields fields).map (memberLength rt)).sum = (fields.map (keptLength rt)).sum := by
  induction fields with
  | nil => rw [cleanedFields]; rfl
  | cons field rest ih =>
      obtain ⟨key, v⟩ := field
      rw [List.map_cons, List.sum_cons, ← ih]
      by_cases hv : v = .undefined
      · rw [hv, cleanedFields, keptLength, Nat.zero_add]
      · rw [cleanedFields_cons hv, List.map_cons, List.sum_cons, keptLength_of_defined hv]

theorem keptLength_cases {field : String × Value} (hloose : field.2 = .undefined ∨ Loose field.2)
    (h : Loose field.2 → IsJson field.2 ∨ textLength rt (cleaned field.2) < textLength rt field.2) :
    (IsJson field.2 ∧ keptLength rt field = memberLength rt field) ∨
      keptLength rt field < memberLength rt field := by
  obtain ⟨key, v⟩ := field
  by_cases hv : v = .undefined
  · rw [hv, keptLength, memberLength]
    exact Or.inr (by omega)
  rw [keptLength_of_defined hv, memberLength, memberLength]
  rcases h (hloose.resolve_left hv) with hjson | hlt
  · exact Or.inl ⟨hjson, by rw [cleaned_of_isJson v hjson]⟩
  · exact Or.inr (by dsimp only at hlt ⊢; omega)

/-- The canonical text of what is read back is shorter, if anything is gone. -/
theorem textLength_cleaned (rt : Runtime) (v : Value) :
    Loose v → IsJson v ∨ textLength rt (cleaned v) < textLength rt v := by
  induction v using Value.induction with
  | undefined => exact fun h => (ne_undefined_of_loose h rfl).elim
  | arr items ih =>
      intro h
      rw [loose_arr] at h
      by_cases hjson : ∀ v ∈ items, IsJson v
      · exact Or.inl ((isJson_arr items).mpr hjson)
      have hstep : ∀ v ∈ items, textLength rt (cleaned v) + 1 = textLength rt v + 1 ∨
          textLength rt (cleaned v) + 1 < textLength rt v + 1 := by
        intro v hv
        rcases ih v hv (h v hv) with hv | hlt
        · exact Or.inl (by rw [cleaned_of_isJson v hv])
        · exact Or.inr (by omega)
      simp only [not_forall] at hjson
      obtain ⟨v, hv, hnot⟩ := hjson
      have hlt := (ih v hv (h v hv)).resolve_left hnot
      have hshort := max_sum_lt hstep hv (by omega) (by omega)
      rw [cleaned, cleanedItems_eq_map, textLength_arr fun v hv => ne_undefined_of_loose (h v hv),
        textLength_arr, List.map_map]
      · exact Or.inr hshort
      · intro w hw
        obtain ⟨v, _, rfl⟩ := List.mem_map.mp hw
        exact cleaned_ne_undefined v
  | obj fields ih =>
      intro h
      rw [loose_obj] at h
      by_cases hjson : ∀ field ∈ fields, IsJson field.2
      · exact Or.inl ((isJson_obj fields).mpr ⟨h.1, hjson⟩)
      have hmember : ∀ field ∈ fields, (IsJson field.2 ∧ keptLength rt field = memberLength rt field) ∨
          keptLength rt field < memberLength rt field :=
        fun field hfield => keptLength_cases (h.2 field hfield) (ih field hfield)
      simp only [not_forall] at hjson
      obtain ⟨field, hfield, hnot⟩ := hjson
      have hlt := (hmember field hfield).resolve_left fun hjson => hnot hjson.1
      rw [cleaned, textLength_obj, textLength_obj, sum_cleanedFields]
      exact Or.inr (max_sum_lt (fun field hfield => (hmember field hfield).imp_left And.right) hfield
        hlt (Nat.le_add_left _ _))
  | _ => exact fun _ => Or.inl trivial

end Lengths

end Admissorium.Signing.TextLength
