import Admissorium.Classify.LineWraps
import Admissorium.Classify.TextChecks

/-!
# Wrapping the lines of a candidate

Risk should not depend on how the strings of a candidate are wrapped. The danger phrases
hold a single space, and the patterns that accept any blanks are tested on JSON text, where a
line break or a tab is written with a backslash and a letter. So a red candidate stays red
however its strings are wrapped exactly when it has a reason outside them, or one that needs
no space (`red_of_rewraps_iff`).
-/
namespace Admissorium.Classify.Rewrapping
set_option autoImplicit false

open JavaScript LanguageBoundary Signals LineWraps TextChecks

/-! ## Rewrapped candidates -/

/-- Where in a candidate a value stands, as far as file paths go. -/
inductive Place where
  | candidate
  | files
  | file
  | path
  | other
  deriving DecidableEq

def Place.item : Place → Place
  | files => file
  | _ => other

def Place.member (place : Place) (key : String) : Place :=
  if place = candidate ∧ key = "files" then files
  else if place = file ∧ key = "path" then path
  else other

mutual
/-- The second value is the first with the lines of its strings wrapped, but for file paths. -/
def Rewraps : Place → Value → Value → Prop
  | place, .str s, .str wrapped =>
      if place = .path then wrapped = s else Wraps none s.toList wrapped.toList
  | place, .arr items, .arr others => RewrapsItems place.item items others
  | place, .obj fields, .obj others => RewrapsFields place fields others
  | _, v, w => w = v

def RewrapsItems : Place → List Value → List Value → Prop
  | _, [], [] => True
  | place, v :: rest, w :: others => Rewraps place v w ∧ RewrapsItems place rest others
  | _, _, _ => False

def RewrapsFields : Place → List (String × Value) → List (String × Value) → Prop
  | _, [], [] => True
  | place, (key, v) :: rest, (name, w) :: others =>
      name = key ∧ Rewraps (place.member key) v w ∧ RewrapsFields place rest others
  | _, _, _ => False
end

mutual
/-- The value with a line break for every single space between words, but for file paths. -/
def breakValue : Place → Value → Value
  | place, .str s => .str (if place = .path then s else breakText s)
  | place, .arr items => .arr (breakItems place.item items)
  | place, .obj fields => .obj (breakFields place fields)
  | _, v => v

def breakItems : Place → List Value → List Value
  | _, [] => []
  | place, v :: rest => breakValue place v :: breakItems place rest

def breakFields : Place → List (String × Value) → List (String × Value)
  | _, [] => []
  | place, (key, v) :: rest => (key, breakValue (place.member key) v) :: breakFields place rest
end

section Relation

variable {place : Place}

theorem rewrapsItems_iff (items others : List Value) :
    RewrapsItems place items others ↔ List.Forall₂ (Rewraps place) items others := by
  induction items generalizing others with
  | nil => cases others <;> simp [RewrapsItems]
  | cons v rest ih =>
      cases others with
      | nil => simp [RewrapsItems]
      | cons w others => rw [RewrapsItems, ih, List.forall₂_cons]

/-- Texts become texts, arrays arrays and objects objects; what has neither items nor members
stays. -/
theorem rewraps_cases {v w : Value} (h : Rewraps place v w) :
    (∃ s wrapped, v = .str s ∧ w = .str wrapped ∧
      if place = .path then wrapped = s else Wraps none s.toList wrapped.toList) ∨
    (∃ items others, v = .arr items ∧ w = .arr others ∧ RewrapsItems place.item items others) ∨
    (∃ fields others, v = .obj fields ∧ w = .obj others ∧ RewrapsFields place fields others) ∨
    (w = v ∧ v.asArray = .error .typeError ∧ ∀ key, v.get key = .undefined) := by
  cases v with
  | str s =>
      cases w with
      | str wrapped => exact Or.inl ⟨s, wrapped, rfl, rfl, by rwa [Rewraps] at h⟩
      | _ => cases h
  | arr items =>
      cases w with
      | arr others => exact Or.inr (Or.inl ⟨items, others, rfl, rfl, h⟩)
      | _ => cases h
  | obj fields =>
      cases w with
      | obj others => exact Or.inr (Or.inr (Or.inl ⟨fields, others, rfl, rfl, h⟩))
      | _ => cases h
  | _ => exact Or.inr (Or.inr (Or.inr ⟨h, rfl, fun _ => rfl⟩))

theorem rewraps_break (v : Value) : Rewraps place v (breakValue place v) := by
  induction v using Value.induction generalizing place with
  | str s =>
      rw [breakValue, Rewraps]
      split
      · rfl
      · rw [breakText, String.toList_ofList]
        exact wraps_breakLines none s.toList
  | arr items ih =>
      rw [breakValue, Rewraps]
      generalize place.item = inside
      induction items with
      | nil => trivial
      | cons v rest ihrest =>
          obtain ⟨hv, hrest⟩ := List.forall_mem_cons.mp ih
          exact ⟨hv, ihrest hrest⟩
  | obj fields ih =>
      rw [breakValue, Rewraps]
      induction fields with
      | nil => trivial
      | cons field rest ihrest =>
          obtain ⟨hfield, hrest⟩ := List.forall_mem_cons.mp ih
          exact ⟨rfl, hfield, ihrest hrest⟩
  | _ => rfl

end Relation

/-! ## What the JSON text is made of -/

/-- A text between structural characters: one that stays, or a string whose lines may be
wrapped. -/
inductive Leaf where
  | fixed (text : String)
  | wrapped (text : String)
  deriving DecidableEq

mutual
/-- The leaves of the JSON text of a value that follows `lead`. -/
def leaves (rt : Runtime) : String → Place → Value → List Leaf
  | lead, place, .str s =>
      [.fixed lead, if place = .path then .fixed (literalText s) else .wrapped s]
  | lead, place, .arr items => .fixed lead :: leavesOfItems rt place.item items
  | lead, place, .obj fields => .fixed lead :: leavesOfFields rt place fields
  | lead, _, v => [.fixed (lead ++ (Json.stringify rt v).getD "null")]

def leavesOfItems (rt : Runtime) : Place → List Value → List Leaf
  | _, [] => []
  | place, v :: rest => leaves rt "" place v ++ leavesOfItems rt place rest

def leavesOfFields (rt : Runtime) : Place → List (String × Value) → List Leaf
  | _, [] => []
  | place, (key, v) :: rest =>
      match v with
      | .undefined => leavesOfFields rt place rest
      | v => .fixed (literalText key) :: leaves rt ":" (place.member key) v ++
          leavesOfFields rt place rest
end

def Leaf.sees (check : String → Bool) : Leaf → Bool
  | fixed text => check text
  | wrapped text => check (literalText text)

theorem quote_eq (s : String) : Json.quote s = "\"" ++ literalText s ++ "\"" := by
  apply String.toList_inj.mp
  simp [Json.quote, literalText]

theorem check_elements {rt : Runtime} {check : String → Bool} (place : Place) {items : List Value}
    (hitems : ∀ v ∈ items, ∀ lead place, check (lead ++ (Json.stringify rt v).getD "null") =
      (leaves rt lead place v).any (Leaf.sees check)) :
    (Json.elements rt items).any check =
      (leavesOfItems rt place items).any (Leaf.sees check) := by
  induction items with
  | nil => rfl
  | cons v rest ih =>
      obtain ⟨hv, hrest⟩ := List.forall_mem_cons.mp hitems
      have hhere := hv "" place
      rw [String.empty_append] at hhere
      rw [Json.elements, List.any_cons, leavesOfItems, List.any_append, ih hrest, hhere]

theorem leavesOfFields_cons {rt : Runtime} {place : Place} {v : Value} (key : String)
    (h : v ≠ .undefined) (rest : List (String × Value)) :
    leavesOfFields rt place ((key, v) :: rest) =
      .fixed (literalText key) :: leaves rt ":" (place.member key) v ++
        leavesOfFields rt place rest := by
  cases v with
  | undefined => exact absurd rfl h
  | _ => rfl

section Leaves

variable {rt : Runtime} {check : String → Bool} (hcheck : Local check)
include hcheck

theorem check_member (key text : String) :
    check (Json.quote key ++ ":" ++ text) = (check (literalText key) || check (":" ++ text)) := by
  rw [quote_eq, String.append_assoc, hcheck.quoted]

theorem check_members (place : Place) {fields : List (String × Value)}
    (hfields : ∀ field ∈ fields, ∀ lead place,
      check (lead ++ (Json.stringify rt field.2).getD "null") =
        (leaves rt lead place field.2).any (Leaf.sees check)) :
    (Json.members rt fields).any check =
      (leavesOfFields rt place fields).any (Leaf.sees check) := by
  induction fields with
  | nil => rfl
  | cons field rest ih =>
      obtain ⟨hfield, hrest⟩ := List.forall_mem_cons.mp hfields
      obtain ⟨key, v⟩ := field
      have hhere := hfield ":" (place.member key)
      cases hv : Json.stringify rt v with
      | none =>
          obtain rfl : v = .undefined := by cases v <;> simp [Json.stringify] at hv ⊢
          rw [Json.members, hv, leavesOfFields]
          exact ih hrest
      | some text =>
          have hdefined : v ≠ .undefined := by
            rintro rfl
            simp [Json.stringify] at hv
          rw [hv, Option.getD_some] at hhere
          rw [Json.members, hv, leavesOfFields_cons key hdefined, List.any_cons,
            check_member hcheck, ih hrest, hhere, List.any_append, List.any_cons]
          rfl

/-- A local check finds in the JSON text of a value what it finds in a leaf. -/
theorem check_leaves (v : Value) (lead : String) (place : Place) :
    check (lead ++ (Json.stringify rt v).getD "null") =
      (leaves rt lead place v).any (Leaf.sees check) := by
  induction v using Value.induction generalizing lead place with
  | str s =>
      have hquote : '"' ∈ structural := by decide
      have hstring := hcheck.bracketed hquote hquote lead [literalText s]
      rw [String.intercalate_singleton] at hstring
      rw [Json.stringify, Option.getD_some, quote_eq, leaves]
      change check (lead ++ (String.singleton '"' ++ literalText s ++ String.singleton '"')) = _
      rw [hstring]
      by_cases hpath : place = .path <;> simp [hpath, Leaf.sees]
  | arr items ih =>
      rw [Json.stringify, Option.getD_some, hcheck.array, leaves, List.any_cons,
        ← check_elements place.item ih]
      rfl
  | obj fields ih =>
      rw [Json.stringify, Option.getD_some, hcheck.object, leaves, List.any_cons,
        ← check_members hcheck place ih]
      rfl
  | _ => simp [leaves, Leaf.sees]

end Leaves

/-- The second leaf is the first with its lines wrapped. -/
def LeafRewraps : Leaf → Leaf → Prop
  | .wrapped s, .wrapped wrapped => Wraps none s.toList wrapped.toList
  | leaf, other => other = leaf

def Leaf.broken : Leaf → Leaf
  | fixed text => .fixed text
  | wrapped text => .wrapped (breakText text)

section Corresponding

variable {rt : Runtime}

theorem leavesOfItems_rewraps {place : Place} {items others : List Value}
    (h : RewrapsItems place items others)
    (hitems : ∀ v ∈ items, ∀ w, Rewraps place v w →
      List.Forall₂ LeafRewraps (leaves rt "" place v) (leaves rt "" place w)) :
    List.Forall₂ LeafRewraps (leavesOfItems rt place items) (leavesOfItems rt place others) := by
  induction items generalizing others with
  | nil =>
      cases others with
      | nil => exact List.Forall₂.nil
      | cons w others => cases h
  | cons v rest ih =>
      cases others with
      | nil => cases h
      | cons w others =>
          obtain ⟨hv, hrest⟩ := List.forall_mem_cons.mp hitems
          exact List.rel_append (hv w h.1) (ih h.2 hrest)

theorem leavesOfFields_rewraps {place : Place} {fields others : List (String × Value)}
    (h : RewrapsFields place fields others)
    (hfields : ∀ field ∈ fields, ∀ place w, Rewraps place field.2 w →
      List.Forall₂ LeafRewraps (leaves rt ":" place field.2) (leaves rt ":" place w)) :
    List.Forall₂ LeafRewraps (leavesOfFields rt place fields) (leavesOfFields rt place others) := by
  induction fields generalizing others with
  | nil =>
      cases others with
      | nil => exact List.Forall₂.nil
      | cons field others => cases h
  | cons field rest ih =>
      obtain ⟨key, v⟩ := field
      cases others with
      | nil => cases h
      | cons other others =>
          obtain ⟨name, w⟩ := other
          obtain ⟨rfl, hvw, hothers⟩ := h
          obtain ⟨hfield, hrest⟩ := List.forall_mem_cons.mp hfields
          have htail := ih hothers hrest
          by_cases hv : v = .undefined
          · subst hv
            obtain rfl : w = .undefined := hvw
            exact htail
          · have hw : w ≠ .undefined := by
              rintro rfl
              cases v with
              | undefined => exact hv rfl
              | _ => cases hvw
            rw [leavesOfFields_cons name hv, leavesOfFields_cons name hw]
            have hkey : LeafRewraps (.fixed (literalText name)) (.fixed (literalText name)) := rfl
            exact List.rel_append (List.Forall₂.cons hkey (hfield _ w hvw)) htail

theorem leaves_rewraps {v w : Value} {place : Place} (h : Rewraps place v w) (lead : String) :
    List.Forall₂ LeafRewraps (leaves rt lead place v) (leaves rt lead place w) := by
  induction v using Value.induction generalizing w lead place with
  | str s =>
      cases w with
      | str wrapped =>
          rw [Rewraps] at h
          rw [leaves, leaves]
          refine List.Forall₂.cons rfl (List.Forall₂.cons ?_ List.Forall₂.nil)
          by_cases hpath : place = .path
          · rw [if_pos hpath] at h
            rw [if_pos hpath, if_pos hpath, h]
            rfl
          · rw [if_neg hpath] at h
            rw [if_neg hpath, if_neg hpath]
            exact h
      | _ => cases h
  | arr items ih =>
      cases w with
      | arr others =>
          exact List.Forall₂.cons rfl (leavesOfItems_rewraps h (fun v hv w hw => ih v hv hw ""))
      | _ => cases h
  | obj fields ih =>
      cases w with
      | obj others =>
          exact List.Forall₂.cons rfl
            (leavesOfFields_rewraps h (fun field hfield place w hw => ih field hfield hw ":"))
      | _ => cases h
  | _ =>
      obtain rfl : w = _ := h
      exact List.Forall₂.cons rfl List.Forall₂.nil

theorem leavesOfItems_break (place : Place) {items : List Value}
    (hitems : ∀ v ∈ items, leaves rt "" place (breakValue place v) =
      (leaves rt "" place v).map Leaf.broken) :
    leavesOfItems rt place (breakItems place items) =
      (leavesOfItems rt place items).map Leaf.broken := by
  induction items with
  | nil => rfl
  | cons v rest ih =>
      obtain ⟨hv, hrest⟩ := List.forall_mem_cons.mp hitems
      rw [breakItems, leavesOfItems, leavesOfItems, List.map_append, hv, ih hrest]

theorem leavesOfFields_break (place : Place) {fields : List (String × Value)}
    (hfields : ∀ field ∈ fields, ∀ place, leaves rt ":" place (breakValue place field.2) =
      (leaves rt ":" place field.2).map Leaf.broken) :
    leavesOfFields rt place (breakFields place fields) =
      (leavesOfFields rt place fields).map Leaf.broken := by
  induction fields with
  | nil => rfl
  | cons field rest ih =>
      obtain ⟨key, v⟩ := field
      obtain ⟨hfield, hrest⟩ := List.forall_mem_cons.mp hfields
      have htail := ih hrest
      unfold breakFields
      by_cases hv : v = .undefined
      · subst hv
        exact htail
      · have hbroken : breakValue (place.member key) v ≠ .undefined := by
          cases v with
          | undefined => exact absurd rfl hv
          | _ => simp [breakValue]
        rw [leavesOfFields_cons key hv, leavesOfFields_cons key hbroken, hfield, htail]
        simp [Leaf.broken]

theorem leaves_break (v : Value) (lead : String) (place : Place) :
    leaves rt lead place (breakValue place v) = (leaves rt lead place v).map Leaf.broken := by
  induction v using Value.induction generalizing lead place with
  | str s =>
      rw [breakValue, leaves, leaves]
      by_cases hpath : place = .path <;> simp [hpath, Leaf.broken]
  | arr items ih =>
      rw [breakValue, leaves, leaves, leavesOfItems_break _ (fun v hv => ih v hv "" _)]
      rfl
  | obj fields ih =>
      rw [breakValue, leaves, leaves,
        leavesOfFields_break _ (fun field hfield place => ih field hfield ":" place)]
      rfl
  | _ => rfl

end Corresponding

/-! ## The paths -/

section Paths

variable {place : Place}

theorem rewraps_lookup {fields others : List (String × Value)}
    (h : RewrapsFields place fields others) (key : String) :
    Rewraps (place.member key) ((fields.lookup key).getD .undefined)
      ((others.lookup key).getD .undefined) := by
  induction fields generalizing others with
  | nil =>
      cases others with
      | nil => exact rfl
      | cons other others => cases h
  | cons field rest ih =>
      obtain ⟨name, v⟩ := field
      cases others with
      | nil => cases h
      | cons other others =>
          obtain ⟨other, w⟩ := other
          obtain ⟨rfl, hvw, hothers⟩ := h
          rw [lookup_cons_ite, lookup_cons_ite]
          by_cases hkey : key = other
          · subst hkey
            rw [if_pos rfl, if_pos rfl]
            exact hvw
          · rw [if_neg hkey, if_neg hkey]
            exact ih hothers

theorem rewraps_get {v w : Value} (h : Rewraps place v w) (key : String) :
    Rewraps (place.member key) (v.get key) (w.get key) := by
  rcases rewraps_cases h with ⟨s, wrapped, rfl, rfl, _⟩ | ⟨items, others, rfl, rfl, _⟩ |
    ⟨fields, others, rfl, rfl, hfields⟩ | ⟨rfl, _, hnone⟩
  · exact rfl
  · exact rfl
  · exact rewraps_lookup hfields key
  · rw [hnone]
    exact rfl

theorem rewraps_prop {v w u : Value} {key : String} (h : Rewraps place v w)
    (hv : v.prop key = .ok u) :
    ∃ u', w.prop key = .ok u' ∧ Rewraps (place.member key) u u' := by
  have hget := rewraps_get h key
  obtain rfl : u = v.get key := Except.ok.inj (hv.symm.trans (Value.prop_eq_get hv key))
  rcases rewraps_cases h with ⟨s, wrapped, rfl, rfl, _⟩ | ⟨items, others, rfl, rfl, _⟩ |
    ⟨fields, others, rfl, rfl, _⟩ | ⟨rfl, _⟩
  · exact ⟨_, rfl, hget⟩
  · exact ⟨_, rfl, hget⟩
  · exact ⟨_, rfl, hget⟩
  · exact ⟨_, hv, hget⟩

theorem wraps_eq_nil_iff {prev : Option Char} {text wrapped : List Char}
    (h : Wraps prev text wrapped) : wrapped = [] ↔ text = [] := by
  cases h with
  | nil => exact Iff.rfl
  | keep h => simp
  | wrap hsingle hrun hblank h => simp [hrun]

theorem truthy_rewraps {v w : Value} (h : Rewraps place v w) : w.truthy = v.truthy := by
  rcases rewraps_cases h with ⟨s, wrapped, rfl, rfl, hs⟩ | ⟨items, others, rfl, rfl, _⟩ |
    ⟨fields, others, rfl, rfl, _⟩ | ⟨rfl, _⟩
  · by_cases hpath : place = .path
    · rw [if_pos hpath] at hs
      rw [hs]
    · rw [if_neg hpath] at hs
      have hempty := wraps_eq_nil_iff hs
      rw [String.toList_eq_nil_iff, String.toList_eq_nil_iff] at hempty
      simp [Value.truthy, hempty]
  · rfl
  · rfl
  · rfl

theorem or_rewraps {v w u : Value} (h : Rewraps place v w) (hu : Rewraps place u u) :
    Rewraps place (v.or u) (w.or u) := by
  rw [Value.or, Value.or, truthy_rewraps h]
  split
  · exact h
  · exact hu

theorem mapM_path_rewraps {items others paths : List Value}
    (h : List.Forall₂ (Rewraps .file) items others)
    (hpaths : items.mapM (fun f => f.prop "path") = .ok paths) :
    ∃ paths', others.mapM (fun f => f.prop "path") = .ok paths' ∧
      List.Forall₂ (Rewraps .path) paths paths' := by
  simp only [mapM_eq_ok_iff] at hpaths ⊢
  induction h generalizing paths with
  | nil =>
      cases hpaths
      exact ⟨[], List.Forall₂.nil, List.Forall₂.nil⟩
  | cons hvw _ ih =>
      cases hpaths with
      | cons hpath hrest =>
          obtain ⟨path', hpath', hrewraps⟩ := rewraps_prop hvw hpath
          obtain ⟨paths', hpaths', hothers⟩ := ih hrest
          exact ⟨path' :: paths', List.Forall₂.cons hpath' hpaths',
            List.Forall₂.cons hrewraps hothers⟩

/-- The paths of a rewrapped candidate. -/
theorem candidatePaths_rewraps {candidate other : Value} {paths : List Value}
    (h : Rewraps .candidate candidate other) (hpaths : candidatePaths candidate = .ok paths) :
    ∃ paths', candidatePaths other = .ok paths' ∧
      List.Forall₂ (Rewraps .path) paths paths' := by
  obtain ⟨files, hfiles, hpaths⟩ := bind_eq_ok.mp hpaths
  obtain ⟨items, hitems, hpaths⟩ := bind_eq_ok.mp hpaths
  obtain ⟨files', hfiles', hrewraps⟩ := rewraps_prop h hfiles
  have hempty : Rewraps (Place.member .candidate "files") (.arr []) (.arr []) := trivial
  have hlist := or_rewraps hrewraps hempty
  rcases rewraps_cases hlist with ⟨s, wrapped, hv, _⟩ | ⟨list, others, hv, hw, hlist⟩ |
    ⟨fields, others, hv, _⟩ | ⟨_, hnone, _⟩
  · rw [hv] at hitems
    cases hitems
  · rw [hv] at hitems
    cases hitems
    obtain ⟨paths', hpaths', hforall⟩ := mapM_path_rewraps ((rewrapsItems_iff _ _).mp hlist) hpaths
    refine ⟨paths', ?_, hforall⟩
    rw [candidatePaths, bind_of_ok hfiles', hw]
    exact hpaths'
  · rw [hv] at hitems
    cases hitems
  · rw [hnone] at hitems
    cases hitems

/-- At the place of a path the texts stay. -/
theorem eq_str_iff {v w : Value} (h : Rewraps .path v w) (path : String) :
    v = .str path ↔ w = .str path := by
  rcases rewraps_cases h with ⟨s, wrapped, rfl, rfl, hs⟩ | ⟨items, others, rfl, rfl, _⟩ |
    ⟨fields, others, rfl, rfl, _⟩ | ⟨rfl, _⟩
  · rw [if_pos rfl] at hs
    rw [hs]
  · simp
  · simp
  · exact Iff.rfl

variable {paths paths' : List Value}

theorem readable_rewraps (test : String → Bool) (h : List.Forall₂ (Rewraps .path) paths paths')
    (hread : Readable test paths) : Readable test paths' := by
  induction h with
  | nil => trivial
  | @cons v w paths paths' hvw _ ih =>
      cases v with
      | str path =>
          obtain rfl := (eq_str_iff hvw path).mp rfl
          exact hread.imp_right ih
      | _ => exact hread.elim

theorem touchesTruth_rewraps (h : List.Forall₂ (Rewraps .path) paths paths') :
    TouchesTruth paths' ↔ TouchesTruth paths := by
  have hmem : ∀ path, .str path ∈ paths' ↔ .str path ∈ paths := by
    intro path
    induction h with
    | nil => exact Iff.rfl
    | cons hvw _ ih =>
        rw [List.mem_cons, List.mem_cons, ih, eq_comm, ← eq_str_iff hvw path, eq_comm]
  simp only [TouchesTruth, hmem]

end Paths

/-! ## Red however the lines are wrapped -/

/-- What `classifyTruthRisk` answers after `classifySurface` and `classifyMutation`. -/
def riskOf (rt : Runtime) (candidate : Value) : Except JsError Risk := do
  let surface ← classifySurface rt candidate
  let mutation ← classifyMutation rt candidate surface
  let truthRisk ← classifyTruthRisk candidate surface mutation
  return truthRisk.risk

/-- A leaf that is a reason: as it is, or with line breaks for its single spaces between
words, by a signal that needs no space. -/
def Leaf.Lasting (rt : Runtime) : Leaf → Prop
  | fixed text => RedText (maskSafeBoundaryDenials (rt.toLowerCase text))
  | wrapped text => lasting (rt.toLowerCase (literalText (breakText text))) = true

/-- The candidate touches truth, or has such a leaf. -/
def Lasting (rt : Runtime) (candidate : Value) : Prop :=
  (∃ paths, candidatePaths candidate = .ok paths ∧ TouchesTruth paths) ∨
    ∃ leaf ∈ leaves rt "" .candidate candidate, leaf.Lasting rt

def Leaf.Red (rt : Runtime) : Leaf → Prop
  | fixed text => RedText (maskSafeBoundaryDenials (rt.toLowerCase text))
  | wrapped text => RedText (maskSafeBoundaryDenials (rt.toLowerCase (literalText text)))

section Red

variable {rt : Runtime} {candidate : Value}

theorem red_iff_sees (leaf : Leaf) :
    leaf.Red rt ↔ ∃ check ∈ reasonChecks, leaf.sees (sees rt check) = true := by
  cases leaf with
  | fixed text => exact redText_iff _
  | wrapped text => exact redText_iff _

theorem exists_red_leaf_iff (hapart : LowersApart rt) {text : String}
    (ht : dangerText rt candidate = .ok text) :
    RedText text ↔ ∃ leaf ∈ leaves rt "" .candidate candidate, leaf.Red rt := by
  have hjson : ∃ json, Json.stringify rt candidate = some json ∧
      text = maskSafeBoundaryDenials (rt.toLowerCase json) := by
    rw [dangerText, LanguageBoundary.normalize] at ht
    cases hjson : Json.stringify rt candidate with
    | none =>
        rw [hjson] at ht
        cases ht
    | some json =>
        rw [hjson] at ht
        exact ⟨json, rfl, (Except.ok.inj ht).symm⟩
  obtain ⟨json, hjson, rfl⟩ := hjson
  have hleaves : ∀ check ∈ reasonChecks,
      check (maskSafeBoundaryDenials (rt.toLowerCase json)) =
        (leaves rt "" .candidate candidate).any (Leaf.sees (sees rt check)) := by
    intro check hmem
    have hcheck := @check_leaves rt _ (local_sees hapart (local_reasonChecks check hmem))
      candidate "" .candidate
    rw [hjson, Option.getD_some, String.empty_append] at hcheck
    exact hcheck
  rw [redText_iff]
  constructor
  · intro h
    obtain ⟨check, hmem, hfound⟩ := h
    rw [hleaves check hmem, List.any_eq_true] at hfound
    obtain ⟨leaf, hleaf, hsees⟩ := hfound
    exact ⟨leaf, hleaf, (red_iff_sees leaf).mpr ⟨check, hmem, hsees⟩⟩
  · intro h
    obtain ⟨leaf, hleaf, hred⟩ := h
    obtain ⟨check, hmem, hsees⟩ := (red_iff_sees leaf).mp hred
    refine ⟨check, hmem, ?_⟩
    rw [hleaves check hmem, List.any_eq_true]
    exact ⟨leaf, hleaf, hsees⟩

theorem exists_dangerText_of_paths {paths : List Value}
    (hp : candidatePaths candidate = .ok paths) : ∃ text, dangerText rt candidate = .ok text := by
  have hjson : ∃ json, Json.stringify rt candidate = some json := by
    cases candidate with
    | undefined => cases hp
    | _ => exact ⟨_, by rw [Json.stringify]⟩
  obtain ⟨json, hjson⟩ := hjson
  refine ⟨maskSafeBoundaryDenials (rt.toLowerCase json), ?_⟩
  rw [dangerText, LanguageBoundary.normalize, hjson]
  rfl

theorem riskOf_eq_red_iff (hapart : LowersApart rt) :
    riskOf rt candidate = .ok .red ↔ ∃ paths, candidatePaths candidate = .ok paths ∧
      AllReadable paths ∧ (TouchesTruth paths ∨
        ∃ leaf ∈ leaves rt "" .candidate candidate, leaf.Red rt) := by
  constructor
  · intro h
    obtain ⟨surface, hs, h⟩ := bind_eq_ok.mp h
    obtain ⟨mutation, hm, h⟩ := bind_eq_ok.mp h
    obtain ⟨truthRisk, hr, h⟩ := bind_eq_ok.mp h
    obtain ⟨paths, text, hp, ht, hread, htouch, hlanguage⟩ := classifySurface_ok hs
    have hred := (risk_red_iff htouch hlanguage ht hm hr).mp (Except.ok.inj h)
    rw [exists_red_leaf_iff hapart ht] at hred
    exact ⟨paths, hp, hread, hred⟩
  · intro h
    obtain ⟨paths, hp, hread, hreason⟩ := h
    obtain ⟨text, ht⟩ := @exists_dangerText_of_paths rt _ _ hp
    obtain ⟨surface, hs⟩ := exists_classifySurface hp ht hread
    obtain ⟨mutation, hm⟩ := exists_classifyMutation hp ht surface
    obtain ⟨files, hfiles, _⟩ := bind_eq_ok.mp hp
    obtain ⟨truthRisk, hr⟩ := exists_classifyTruthRisk hfiles surface mutation
    obtain ⟨paths', text', hp', ht', _, htouch, hlanguage⟩ := classifySurface_ok hs
    obtain rfl := Except.ok.inj (hp.symm.trans hp')
    obtain rfl := Except.ok.inj (ht.symm.trans ht')
    rw [← exists_red_leaf_iff hapart ht] at hreason
    have hred := (risk_red_iff htouch hlanguage ht hm hr).mpr hreason
    rw [riskOf, hs, ok_bind, hm, ok_bind, hr, ok_bind, hred]
    rfl

/-- A red candidate stays red however its lines are wrapped exactly when it touches truth or
has a reason that needs no space. -/
theorem red_of_rewraps_iff {lower : Char → List Char} (hlower : LowersChars rt lower)
    (hapart : LowersApart rt) (hred : riskOf rt candidate = .ok .red) :
    (∀ other, Rewraps .candidate candidate other → riskOf rt other = .ok .red) ↔
      Lasting rt candidate := by
  obtain ⟨paths, hp, hread, _⟩ := (riskOf_eq_red_iff hapart).mp hred
  constructor
  · intro h
    have hbroken := h _ (rewraps_break candidate)
    obtain ⟨paths', hp', _, hreason⟩ := (riskOf_eq_red_iff hapart).mp hbroken
    rcases hreason with htouch | ⟨brokenLeaf, hbrokenLeaf, hleafred⟩
    · obtain ⟨others, hothers, hforall⟩ := candidatePaths_rewraps (rewraps_break candidate) hp
      obtain rfl := Except.ok.inj (hp'.symm.trans hothers)
      exact Or.inl ⟨paths, hp, (touchesTruth_rewraps hforall).mp htouch⟩
    · rw [leaves_break] at hbrokenLeaf
      obtain ⟨leaf, hleaf, rfl⟩ := List.mem_map.mp hbrokenLeaf
      refine Or.inr ⟨leaf, hleaf, ?_⟩
      cases leaf with
      | fixed text => exact hleafred
      | wrapped text => exact lasting_of_redText hlower hleafred
  · intro h other hrewraps
    obtain ⟨paths', hp', hforall⟩ := candidatePaths_rewraps hrewraps hp
    have hread' : AllReadable paths' :=
      ⟨readable_rewraps _ hforall hread.truth, readable_rewraps _ hforall hread.projection,
        readable_rewraps _ hforall hread.package, readable_rewraps _ hforall hread.workflow⟩
    refine (riskOf_eq_red_iff hapart).mpr ⟨paths', hp', hread', ?_⟩
    rcases h with ⟨paths, hpaths, htouch⟩ | ⟨leaf, hleaf, hlasting⟩
    · obtain rfl := Except.ok.inj (hp.symm.trans hpaths)
      exact Or.inl ((touchesTruth_rewraps hforall).mpr htouch)
    · obtain ⟨leaf', hleaf', hcorresponds⟩ :=
        exists_of_forall₂_left (leaves_rewraps hrewraps "") hleaf
      refine Or.inr ⟨leaf', hleaf', ?_⟩
      cases leaf with
      | fixed text =>
          obtain rfl : leaf' = .fixed text := hcorresponds
          exact hlasting
      | wrapped text =>
          cases leaf' with
          | fixed other => cases hcorresponds
          | wrapped other => exact redText_of_wraps hlower hcorresponds hlasting

end Red

/-- It names a permission with an underscore. -/
def permissionCandidate : Value := .obj [("content", .str "asks contents_write")]

theorem red_of_rewraps_iff_permissionCandidate : Lasting Runtime.ascii permissionCandidate ∧
    ∀ other, Rewraps .candidate permissionCandidate other →
      riskOf Runtime.ascii other = .ok .red := by
  have hsignal : lasting (Runtime.ascii.toLowerCase
      (literalText (breakText "asks contents_write"))) = true := by decide +kernel
  have hlasting : Lasting Runtime.ascii permissionCandidate :=
    Or.inr ⟨.wrapped "asks contents_write", by decide +kernel, hsignal⟩
  exact ⟨hlasting, (red_of_rewraps_iff lowersChars_ascii (lowersApart_of_asciiLower rfl)
    (by decide +kernel)).mpr hlasting⟩

/-- A secret that is named on one line is not seen on two. -/
theorem secret_hidden_by_line_break : ¬ ∀ candidate other, Rewraps .candidate candidate other →
    riskOf Runtime.ascii candidate = .ok .red → riskOf Runtime.ascii other = .ok .red := by
  intro h
  have hrewraps : Rewraps .candidate (.obj [("content", .str "github token")])
      (.obj [("content", .str "github\ntoken")]) := rewraps_break _
  have hgreen : riskOf Runtime.ascii (.obj [("content", .str "github\ntoken")]) ≠ .ok .red := by
    decide +kernel
  exact hgreen (h _ _ hrewraps (by decide +kernel))

end Admissorium.Classify.Rewrapping
