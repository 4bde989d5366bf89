import Admissorium.JavaScript.JsonText

/-!
# `JSON.stringify(value, null, 2)`

The texts on several lines that reports are stored as. What has no text is left out of them: a
member that is `undefined` is gone, and an `undefined` among the items of an array is `null`.
-/
namespace Admissorium.JavaScript.Json
set_option autoImplicit false

/-- A line break and the blanks that open a line. -/
def gap (depth : Nat) : String := String.ofList ('\n' :: List.replicate depth ' ')

/-- Texts on lines of their own between brackets, or the brackets alone. -/
def block (opening closing : String) (depth : Nat) (texts : List String) : String :=
  if texts = [] then opening ++ closing
  else opening ++ gap (depth + 2) ++ ("," ++ gap (depth + 2)).intercalate texts ++ gap depth ++
    closing

mutual
/-- `JSON.stringify(value, null, 2)`, at some depth inside of a value. -/
def pretty (rt : Runtime) (depth : Nat) : Value → Option String
  | .undefined => none
  | .null => some "null"
  | .bool b => some (if b then "true" else "false")
  | .num q => some (rt.numberToString q)
  | .str s => some (quote s)
  | .arr items => some (block "[" "]" depth (prettyItems rt (depth + 2) items))
  | .obj fields => some (block "\x7b" "\x7d" depth (prettyMembers rt (depth + 2) fields))

def prettyItems (rt : Runtime) (depth : Nat) : List Value → List String
  | [] => []
  | v :: rest => (pretty rt depth v).getD "null" :: prettyItems rt depth rest

def prettyMembers (rt : Runtime) (depth : Nat) : List (String × Value) → List String
  | [] => []
  | (key, v) :: rest =>
      match pretty rt depth v with
      | some text => (quote key ++ ": " ++ text) :: prettyMembers rt depth rest
      | none => prettyMembers rt depth rest
end

/-! ## What has a text -/

mutual
/-- A value without its `undefined` members, and with `null` for an `undefined` item. -/
def cleaned : Value → Value
  | .arr items => .arr (cleanedItems items)
  | .obj fields => .obj (cleanedFields fields)
  | .undefined => .null
  | .null => .null
  | .bool b => .bool b
  | .num q => .num q
  | .str s => .str s

def cleanedItems : List Value → List Value
  | [] => []
  | v :: rest => cleaned v :: cleanedItems rest

def cleanedFields : List (String × Value) → List (String × Value)
  | [] => []
  | (key, v) :: rest =>
      match v with
      | .undefined => cleanedFields rest
      | v => (key, cleaned v) :: cleanedFields rest
end

/-- The text of a value that is not `undefined`. -/
def prettyOf (rt : Runtime) (depth : Nat) (v : Value) : String := (pretty rt depth v).getD "null"

section Texts
variable {rt : Runtime}

theorem pretty_eq_prettyOf {v : Value} (h : v ≠ .undefined) (depth : Nat) :
    pretty rt depth v = some (prettyOf rt depth v) := by
  cases v with
  | undefined => exact absurd rfl h
  | _ => rw [prettyOf, pretty]; rfl

theorem prettyItems_eq_map (depth : Nat) (items : List Value) :
    prettyItems rt depth items = items.map (prettyOf rt depth) := by
  induction items with
  | nil => rw [prettyItems]; rfl
  | cons v rest ih => rw [prettyItems, ih, List.map_cons, prettyOf]

def prettyMember (rt : Runtime) (depth : Nat) (field : String × Value) : String :=
  quote field.1 ++ ": " ++ prettyOf rt depth field.2

theorem prettyMembers_eq_map {depth : Nat} {fields : List (String × Value)}
    (h : ∀ field ∈ fields, field.2 ≠ .undefined) :
    prettyMembers rt depth fields = fields.map (prettyMember rt depth) := by
  induction fields with
  | nil => rw [prettyMembers]; rfl
  | cons field rest ih =>
      obtain ⟨key, v⟩ := field
      rw [List.forall_mem_cons] at h
      rw [prettyMembers, pretty_eq_prettyOf h.1, ih h.2]
      rfl

theorem cleanedItems_eq_map (items : List Value) : cleanedItems items = items.map cleaned := by
  induction items with
  | nil => rw [cleanedItems]; rfl
  | cons v rest ih => rw [cleanedItems, ih]; rfl

theorem cleaned_ne_undefined (v : Value) : cleaned v ≠ .undefined := by
  cases v <;> rw [cleaned] <;> nofun

theorem cleanedFields_cons {v : Value} (h : v ≠ .undefined) (key : String)
    (rest : List (String × Value)) :
    cleanedFields ((key, v) :: rest) = (key, cleaned v) :: cleanedFields rest := by
  cases v with
  | undefined => exact absurd rfl h
  | _ => rw [cleanedFields]; nofun

/-- Only what has a text is in the text. -/
theorem prettyOf_cleaned (v : Value) : ∀ depth, prettyOf rt depth (cleaned v) = prettyOf rt depth v := by
  induction v using Value.induction with
  | arr items ih =>
      intro depth
      rw [cleaned, prettyOf, prettyOf, pretty, pretty, prettyItems_eq_map, prettyItems_eq_map,
        cleanedItems_eq_map, List.map_map]
      congr 3
      exact List.map_congr_left fun v hv => ih v hv (depth + 2)
  | obj fields ih =>
      intro depth
      have hmembers : ∀ depth, prettyMembers rt depth (cleanedFields fields) =
          prettyMembers rt depth fields := by
        intro depth
        clear * - ih
        induction fields with
        | nil => rw [cleanedFields]
        | cons field rest ihrest =>
            obtain ⟨key, v⟩ := field
            rw [List.forall_mem_cons] at ih
            by_cases hv : v = .undefined
            · subst hv
              rw [cleanedFields, prettyMembers, pretty, ihrest ih.2]
            · rw [cleanedFields_cons hv, prettyMembers, prettyMembers, pretty_eq_prettyOf hv,
                pretty_eq_prettyOf (cleaned_ne_undefined v), ih.1, ihrest ih.2]
      rw [cleaned, prettyOf, prettyOf, pretty, pretty, hmembers]
  | undefined => exact fun _ => rfl
  | _ => exact fun _ => rfl

end Texts

/-! ## JSON but for members that are `undefined` -/

mutual
def Loose : Value → Prop
  | .undefined => False
  | .null => True
  | .bool _ => True
  | .num _ => True
  | .str _ => True
  | .arr items => ItemsLoose items
  | .obj fields => (fields.map Prod.fst).Nodup ∧ FieldsLoose fields

def ItemsLoose : List Value → Prop
  | [] => True
  | v :: rest => Loose v ∧ ItemsLoose rest

def FieldsLoose : List (String × Value) → Prop
  | [] => True
  | (_, v) :: rest => (v = .undefined ∨ Loose v) ∧ FieldsLoose rest
end

theorem loose_arr (items : List Value) : Loose (.arr items) ↔ ∀ v ∈ items, Loose v := by
  rw [Loose]
  induction items with
  | nil => simp [ItemsLoose]
  | cons v rest ih => rw [ItemsLoose, ih, List.forall_mem_cons]

theorem loose_obj (fields : List (String × Value)) : Loose (.obj fields) ↔
    (fields.map Prod.fst).Nodup ∧ ∀ field ∈ fields, field.2 = .undefined ∨ Loose field.2 := by
  have hfields : FieldsLoose fields ↔ ∀ field ∈ fields, field.2 = .undefined ∨ Loose field.2 := by
    induction fields with
    | nil => simp [FieldsLoose]
    | cons field rest ih =>
        obtain ⟨key, v⟩ := field
        rw [FieldsLoose, ih, List.forall_mem_cons]
  rw [Loose, hfields]

theorem ne_undefined_of_loose {v : Value} (h : Loose v) : v ≠ .undefined := by
  intro hv
  rw [hv, Loose] at h
  exact h

theorem cleanedFields_append (fields others : List (String × Value)) :
    cleanedFields (fields ++ others) = cleanedFields fields ++ cleanedFields others := by
  induction fields with
  | nil => rw [cleanedFields, List.nil_append, List.nil_append]
  | cons field rest ih =>
      obtain ⟨key, v⟩ := field
      by_cases hv : v = .undefined
      · rw [hv, List.cons_append, cleanedFields, cleanedFields, ih]
      · rw [List.cons_append, cleanedFields_cons hv, cleanedFields_cons hv, ih, List.cons_append]

theorem keys_cleanedFields (fields : List (String × Value)) :
    ((cleanedFields fields).map Prod.fst).Sublist (fields.map Prod.fst) := by
  induction fields with
  | nil => rw [cleanedFields]
  | cons field rest ih =>
      obtain ⟨key, v⟩ := field
      by_cases hv : v = .undefined
      · rw [hv, cleanedFields, List.map_cons]
        exact ih.cons key
      · rw [cleanedFields_cons hv, List.map_cons, List.map_cons]
        exact ih.cons_cons key

theorem exists_of_mem_cleanedFields {fields : List (String × Value)} {field : String × Value}
    (h : field ∈ cleanedFields fields) :
    ∃ v, (field.1, v) ∈ fields ∧ v ≠ .undefined ∧ field.2 = cleaned v := by
  induction fields with
  | nil =>
      unfold cleanedFields at h
      cases h
  | cons other rest ih =>
      obtain ⟨key, v⟩ := other
      by_cases hv : v = .undefined
      · rw [hv, cleanedFields] at h
        obtain ⟨w, hmem, hw⟩ := ih h
        exact ⟨w, List.mem_cons_of_mem _ hmem, hw⟩
      · rw [cleanedFields_cons hv, List.mem_cons] at h
        rcases h with rfl | h
        · exact ⟨v, List.mem_cons_self, hv, rfl⟩
        · obtain ⟨w, hmem, hw⟩ := ih h
          exact ⟨w, List.mem_cons_of_mem _ hmem, hw⟩

/-- What is left of such a value is JSON. -/
theorem isJson_cleaned (v : Value) : Loose v → IsJson (cleaned v) := by
  induction v using Value.induction with
  | undefined => exact fun h => (ne_undefined_of_loose h rfl).elim
  | arr items ih =>
      intro h
      rw [loose_arr] at h
      rw [cleaned, cleanedItems_eq_map, isJson_arr]
      intro w hw
      obtain ⟨v, hv, rfl⟩ := List.mem_map.mp hw
      exact ih v hv (h v hv)
  | obj fields ih =>
      intro h
      rw [loose_obj] at h
      rw [cleaned, isJson_obj]
      refine ⟨(keys_cleanedFields fields).nodup h.1, fun field hfield => ?_⟩
      obtain ⟨v, hmem, hv, heq⟩ := exists_of_mem_cleanedFields hfield
      rw [heq]
      exact ih _ hmem ((h.2 _ hmem).resolve_left hv)
  | _ => exact fun h => h

/-- Nothing is gone from a JSON value. -/
theorem cleaned_of_isJson (v : Value) : IsJson v → cleaned v = v := by
  induction v using Value.induction with
  | undefined => exact fun h => h.elim
  | arr items ih =>
      intro h
      rw [isJson_arr] at h
      rw [cleaned, cleanedItems_eq_map, List.map_congr_left fun v hv => ih v hv (h v hv),
        List.map_id']
  | obj fields ih =>
      intro h
      rw [isJson_obj] at h
      have hfields : cleanedFields fields = fields := by
        have hjson := h.2
        clear h
        induction fields with
        | nil => rw [cleanedFields]
        | cons field rest ihrest =>
            obtain ⟨key, v⟩ := field
            rw [List.forall_mem_cons] at ih hjson
            have hv : v ≠ .undefined := fun hv => by
              rw [hv] at hjson
              exact hjson.1
            rw [cleanedFields_cons hv, ih.1 hjson.1, ihrest ih.2 hjson.2]
      rw [cleaned, hfields]
  | _ => exact fun _ => rfl

/-! ## Where two texts part -/

section Begins
variable {rt : Runtime}

theorem toList_comma_intercalate (depth : Nat) (text next : String) (rest : List String) :
    (("," ++ gap depth).intercalate (text :: next :: rest)).toList =
      text.toList ++ ',' :: (gap depth).toList ++
        (("," ++ gap depth).intercalate (next :: rest)).toList := by
  rw [String.intercalate_cons_cons, String.toList_append, String.toList_append,
    String.toList_append]
  rfl

/-- A list of texts begins with those before one, and goes on with that one. -/
theorem intercalate_begins (depth : Nat) (before : List String) :
    ∃ head : List Char, ∀ text rest, ∃ tail,
      (("," ++ gap depth).intercalate (before ++ text :: rest)).toList =
        head ++ (text.toList ++ tail) := by
  induction before with
  | nil =>
      refine ⟨[], fun text rest => ?_⟩
      cases rest with
      | nil => exact ⟨[], by rw [List.nil_append, String.intercalate_singleton, List.append_nil,
          List.nil_append]⟩
      | cons next rest =>
          rw [List.nil_append, toList_comma_intercalate, List.append_assoc]
          exact ⟨_, rfl⟩
  | cons other before ih =>
      obtain ⟨head, hhead⟩ := ih
      refine ⟨other.toList ++ ',' :: (gap depth).toList ++ head, fun text rest => ?_⟩
      obtain ⟨tail, htail⟩ := hhead text rest
      obtain ⟨next, others, hnext⟩ := List.exists_cons_of_ne_nil
        (List.append_ne_nil_of_right_ne_nil before (List.cons_ne_nil text rest))
      rw [hnext] at htail
      rw [List.cons_append, hnext, toList_comma_intercalate, htail]
      exact ⟨tail, by simp only [List.append_assoc, List.cons_append]⟩

theorem prettyMembers_append (depth : Nat) (fields others : List (String × Value)) :
    prettyMembers rt depth (fields ++ others) =
      prettyMembers rt depth fields ++ prettyMembers rt depth others := by
  induction fields with
  | nil => rw [prettyMembers, List.nil_append, List.nil_append]
  | cons field rest ih =>
      obtain ⟨key, v⟩ := field
      rw [List.cons_append, prettyMembers, prettyMembers, ih]
      cases pretty rt depth v <;> rfl

theorem object_begins (depth : Nat) (before : List (String × Value)) :
    ∃ head : List Char, ∀ key v rest, v ≠ .undefined → ∃ tail,
      (prettyOf rt depth (.obj (before ++ (key, v) :: rest))).toList =
        head ++ ((quote key).toList ++ (": ".toList ++ ((prettyOf rt (depth + 2) v).toList ++ tail))) := by
  obtain ⟨head, hhead⟩ := intercalate_begins (depth + 2) (prettyMembers rt (depth + 2) before)
  refine ⟨"\x7b".toList ++ (gap (depth + 2)).toList ++ head, fun key v rest hv => ?_⟩
  obtain ⟨tail, htail⟩ := hhead (quote key ++ ": " ++ prettyOf rt (depth + 2) v)
    (prettyMembers rt (depth + 2) rest)
  rw [prettyOf, pretty, prettyMembers_append, prettyMembers, pretty_eq_prettyOf hv, Option.getD_some,
    block, if_neg (List.append_ne_nil_of_right_ne_nil _ (List.cons_ne_nil _ _))]
  simp only [String.toList_append, htail, List.append_assoc]
  exact ⟨_, rfl⟩

/-- What the text of a member holds is in the text of the object. -/
theorem includes_of_member {depth : Nat} {fields : List (String × Value)} {key part : String}
    {v : Value} (hmem : (key, v) ∈ fields) (hv : v ≠ .undefined)
    (h : Text.includes (prettyOf rt (depth + 2) v) part = true) :
    Text.includes (prettyOf rt depth (.obj fields)) part = true := by
  obtain ⟨before, rest, rfl⟩ := List.append_of_mem hmem
  obtain ⟨head, hhead⟩ := @object_begins rt depth before
  obtain ⟨tail, htail⟩ := hhead key v rest hv
  rw [Text.includes_iff] at h ⊢
  rw [htail]
  have hmember : (prettyOf rt (depth + 2) v).toList <:+: (prettyOf rt (depth + 2) v).toList ++ tail :=
    (List.prefix_append _ _).isInfix
  exact h.trans (((hmember.trans (List.suffix_append _ _).isInfix).trans
    (List.suffix_append _ _).isInfix).trans (List.suffix_append _ _).isInfix)

/-- Objects with one text that share their first fields share the next one. -/
theorem next_string {depth : Nat} {before rest others : List (String × Value)}
    {key name s t : String}
    (h : prettyOf rt depth (.obj (before ++ (key, .str s) :: rest)) =
      prettyOf rt depth (.obj (before ++ (name, .str t) :: others))) : key = name ∧ s = t := by
  obtain ⟨head, hhead⟩ := @object_begins rt depth before
  obtain ⟨tail, htail⟩ := hhead key (.str s) rest nofun
  obtain ⟨tail', htail'⟩ := hhead name (.str t) others nofun
  rw [h, htail'] at htail
  obtain ⟨hkey, hrest⟩ := quote_inj (List.append_cancel_left htail).symm
  exact ⟨hkey, (quote_inj (List.append_cancel_left hrest)).1⟩

end Begins

end Admissorium.JavaScript.Json
