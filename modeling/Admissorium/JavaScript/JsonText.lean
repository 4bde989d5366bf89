import Admissorium.JavaScript.Json
import Admissorium.JavaScript.Numerals

/-!
# JSON values and their texts

A JSON value has no `undefined` in it and no key twice in an object. Its text tells it
from every other, as long as the texts of numbers do: each kind of value opens with
characters of its own, and no text goes on after another one has ended.
-/
namespace Admissorium.JavaScript.Json
set_option autoImplicit false

mutual
/-- The values `JSON.parse` returns. -/
def IsJson : Value → Prop
  | .undefined => False
  | .null => True
  | .bool _ => True
  | .num _ => True
  | .str _ => True
  | .arr items => ItemsJson items
  | .obj fields => (fields.map Prod.fst).Nodup ∧ FieldsJson fields

def ItemsJson : List Value → Prop
  | [] => True
  | v :: rest => IsJson v ∧ ItemsJson rest

def FieldsJson : List (String × Value) → Prop
  | [] => True
  | (_, v) :: rest => IsJson v ∧ FieldsJson rest
end

theorem itemsJson_iff (items : List Value) : ItemsJson items ↔ ∀ v ∈ items, IsJson v := by
  induction items with
  | nil => simp [ItemsJson]
  | cons v rest ih => rw [ItemsJson, ih, List.forall_mem_cons]

theorem fieldsJson_iff (fields : List (String × Value)) :
    FieldsJson fields ↔ ∀ field ∈ fields, IsJson field.2 := by
  induction fields with
  | nil => simp [FieldsJson]
  | cons field rest ih =>
      obtain ⟨key, v⟩ := field
      rw [FieldsJson, ih, List.forall_mem_cons]

theorem isJson_arr (items : List Value) :
    IsJson (.arr items) ↔ ∀ v ∈ items, IsJson v := by
  rw [IsJson, itemsJson_iff]

theorem isJson_obj (fields : List (String × Value)) :
    IsJson (.obj fields) ↔
      (fields.map Prod.fst).Nodup ∧ ∀ field ∈ fields, IsJson field.2 := by
  rw [IsJson, fieldsJson_iff]

/-- Every JSON value has a text. -/
theorem exists_stringify (rt : Runtime) {v : Value} (h : IsJson v) :
    ∃ text, stringify rt v = some text := by
  cases v with
  | undefined => exact h.elim
  | _ => exact ⟨_, by rw [stringify]⟩

/-! ## Where a text can end -/

/-- The characters that can follow a value inside a text. -/
def separators : List Char := [',', ']', '}']

/-- Nothing follows, or a separator does. -/
def Ends : List Char → Prop
  | [] => True
  | c :: _ => c ∈ separators

theorem ends_cons {c : Char} (h : c ∈ separators) (rest : List Char) : Ends (c :: rest) := h

/-! ## Texts of strings -/

def hexValue (c : Char) : Nat := if c.toNat < 58 then c.toNat - 48 else c.toNat - 87

/-- The character an escape stands for, and what follows it. -/
def unescape : List Char → Option (Char × List Char)
  | [] => none
  | '\\' :: '"' :: rest => some ('"', rest)
  | '\\' :: '\\' :: rest => some ('\\', rest)
  | '\\' :: 'b' :: rest => some ('\u0008', rest)
  | '\\' :: 'f' :: rest => some ('\u000c', rest)
  | '\\' :: 'n' :: rest => some ('\n', rest)
  | '\\' :: 'r' :: rest => some ('\r', rest)
  | '\\' :: 't' :: rest => some ('\t', rest)
  | '\\' :: 'u' :: '0' :: '0' :: high :: low :: rest =>
      some (Char.ofNat (hexValue high * 16 + hexValue low), rest)
  | c :: rest => some (c, rest)

theorem hexValue_hexDigit : ∀ n < 16, hexValue (hexDigit n) = n := by decide

/-- Escapes can be read back. -/
theorem unescape_escapeChar (c : Char) (rest : List Char) :
    unescape (escapeChar c ++ rest) = some (c, rest) := by
  unfold escapeChar
  by_cases hquote : c = '"'
  · rw [if_pos hquote, hquote]
    rfl
  rw [if_neg hquote]
  by_cases hslash : c = '\\'
  · rw [if_pos hslash, hslash]
    rfl
  rw [if_neg hslash]
  by_cases hb : c = '\u0008'
  · rw [if_pos hb, hb]
    rfl
  rw [if_neg hb]
  by_cases hf : c = '\u000c'
  · rw [if_pos hf, hf]
    rfl
  rw [if_neg hf]
  by_cases hn : c = '\n'
  · rw [if_pos hn, hn]
    rfl
  rw [if_neg hn]
  by_cases hr : c = '\r'
  · rw [if_pos hr, hr]
    rfl
  rw [if_neg hr]
  by_cases ht : c = '\t'
  · rw [if_pos ht, ht]
    rfl
  rw [if_neg ht]
  by_cases hcontrol : c.toNat < 32
  · rw [if_pos hcontrol]
    change some (Char.ofNat (hexValue (hexDigit (c.toNat / 16)) * 16 +
      hexValue (hexDigit (c.toNat % 16))), rest) = _
    rw [hexValue_hexDigit _ (by omega), hexValue_hexDigit _ (by omega), Nat.div_add_mod',
      Char.ofNat_toNat]
  · rw [if_neg hcontrol]
    change unescape (c :: rest) = _
    rw [unescape]
    all_goals simp [hslash]

/-- No escape opens with the quote that ends a string. -/
theorem escapeChar_opens (c : Char) : ∃ d rest, escapeChar c = d :: rest ∧ d ≠ '"' := by
  unfold escapeChar
  repeat' split
  all_goals first
    | exact ⟨_, _, rfl, by decide⟩
    | exact ⟨_, _, rfl, by assumption⟩

theorem flatMap_escapeChar_inj {a b u v : List Char}
    (h : a.flatMap escapeChar ++ '"' :: u = b.flatMap escapeChar ++ '"' :: v) : a = b ∧ u = v := by
  induction a generalizing b with
  | nil =>
      cases b with
      | nil => exact ⟨rfl, (List.cons.inj h).2⟩
      | cons d b =>
          obtain ⟨e, rest, he, hne⟩ := escapeChar_opens d
          rw [List.flatMap_cons, he] at h
          exact absurd (List.cons.inj h).1.symm hne
  | cons c a ih =>
      cases b with
      | nil =>
          obtain ⟨e, rest, he, hne⟩ := escapeChar_opens c
          rw [List.flatMap_cons, he] at h
          exact absurd (List.cons.inj h).1 hne
      | cons d b =>
          rw [List.flatMap_cons, List.flatMap_cons, List.append_assoc, List.append_assoc] at h
          have hread := congrArg unescape h
          rw [unescape_escapeChar, unescape_escapeChar, Option.some.injEq, Prod.mk.injEq] at hread
          obtain ⟨rfl, hrest⟩ := hread
          obtain ⟨rfl, huv⟩ := ih hrest
          exact ⟨rfl, huv⟩

theorem toList_quote (s : String) :
    (quote s).toList = '"' :: s.toList.flatMap escapeChar ++ ['"'] := by
  rw [quote, String.toList_ofList]

/-- A string literal ends where it ends, whatever follows. -/
theorem quote_inj {a b : String} {u v : List Char}
    (h : (quote a).toList ++ u = (quote b).toList ++ v) : a = b ∧ u = v := by
  rw [toList_quote, toList_quote, List.cons_append, List.cons_append, List.append_assoc,
    List.append_assoc, List.cons_append, List.cons_append] at h
  obtain ⟨hab, huv⟩ := flatMap_escapeChar_inj (List.cons.inj h).2
  exact ⟨String.toList_inj.mp hab, huv⟩

/-! ## Texts of lists -/

/-- What follows the first text of a list, up to its closing character and beyond. -/
def continued (close : Char) : List String → List Char → List Char
  | [], u => close :: u
  | text :: rest, u => ',' :: text.toList ++ continued close rest u

theorem toList_intercalate_cons (close : Char) (text : String) (rest : List String)
    (u : List Char) : (",".intercalate (text :: rest)).toList ++ close :: u =
      text.toList ++ continued close rest u := by
  induction rest generalizing text with
  | nil => rw [String.intercalate_singleton, continued]
  | cons next rest ih =>
      rw [String.intercalate_cons_cons, String.toList_append, String.toList_append,
        List.append_assoc, ih, continued, List.append_assoc]
      rfl

theorem ends_continued {close : Char} (h : close ∈ separators) (texts : List String)
    (u : List Char) : Ends (continued close texts u) := by
  cases texts with
  | nil => exact h
  | cons text rest => exact ends_cons (by decide) _

/-- Two lists that do not open with the closing character go on alike. -/
theorem continued_of_intercalate {close : Char} {texts others : List String} {u v : List Char}
    (ht : ∀ text ∈ texts, ∃ c rest, text.toList = c :: rest ∧ c ≠ close)
    (ho : ∀ text ∈ others, ∃ c rest, text.toList = c :: rest ∧ c ≠ close)
    (h : (",".intercalate texts).toList ++ close :: u =
      (",".intercalate others).toList ++ close :: v) :
    continued close texts u = continued close others v := by
  cases texts with
  | nil =>
      cases others with
      | nil => exact h
      | cons other others =>
          obtain ⟨c, rest, hc, hne⟩ := ho other (by simp)
          rw [toList_intercalate_cons, hc, String.intercalate_nil] at h
          exact absurd (List.cons.inj h).1.symm hne
  | cons text texts =>
      cases others with
      | nil =>
          obtain ⟨c, rest, hc, hne⟩ := ht text (by simp)
          rw [toList_intercalate_cons, hc, String.intercalate_nil] at h
          exact absurd (List.cons.inj h).1 hne
      | cons other others =>
          rw [toList_intercalate_cons, toList_intercalate_cons] at h
          rw [continued, continued, List.cons_append, List.cons_append, h]

/-! ## Texts of values -/

/-- The characters the text of a value can open with. -/
def opening : Value → List Char
  | .undefined => []
  | .null => ['n']
  | .bool b => if b then ['t'] else ['f']
  | .num _ => numberCharacters
  | .str _ => ['"']
  | .arr _ => ['[']
  | .obj _ => ['{']

def openings : List (List Char) :=
  [[], ['n'], ['t'], ['f'], numberCharacters, ['"'], ['['], ['{']]

theorem opening_mem (v : Value) : opening v ∈ openings := by
  cases v with
  | bool b => cases b <;> simp [opening, openings]
  | _ => simp [opening, openings]

/-- A character opens the texts of one kind of value only. -/
theorem opening_unique {v w : Value} {c : Char} (hv : c ∈ opening v) (hw : c ∈ opening w) :
    opening v = opening w := by
  have hapart : ∀ a ∈ openings, ∀ b ∈ openings, (a.any (fun c => b.contains c)) = true → a = b := by
    decide
  refine hapart _ (opening_mem v) _ (opening_mem w) (List.any_eq_true.mpr ⟨c, hv, ?_⟩)
  exact List.contains_iff_mem.mpr hw

section Texts
variable {rt : Runtime}

theorem stringify_opens (hrt : NumberTexts rt) {v : Value} {text : String}
    (h : stringify rt v = some text) : ∃ c rest, text.toList = c :: rest ∧ c ∈ opening v := by
  cases v with
  | undefined => cases h
  | null =>
      cases h
      exact ⟨_, _, rfl, by decide⟩
  | bool b =>
      cases h
      cases b <;> exact ⟨_, _, rfl, by decide⟩
  | num q =>
      cases h
      obtain ⟨c, rest, hc⟩ := List.exists_cons_of_ne_nil (hrt.nonempty q)
      exact ⟨c, rest, hc, hrt.characters q c (by simp [hc])⟩
  | str s =>
      rw [stringify, Option.some.injEq] at h
      rw [← h, toList_quote]
      exact ⟨_, _, rfl, List.mem_singleton.mpr rfl⟩
  | arr items =>
      rw [stringify, Option.some.injEq] at h
      rw [← h, String.toList_append, String.toList_append]
      exact ⟨'[', _, rfl, List.mem_singleton.mpr rfl⟩
  | obj fields =>
      rw [stringify, Option.some.injEq] at h
      rw [← h, String.toList_append, String.toList_append]
      exact ⟨'{', _, rfl, List.mem_singleton.mpr rfl⟩

/-- The text of a JSON value. -/
def textOf (rt : Runtime) (v : Value) : String := (stringify rt v).getD "null"

theorem stringify_eq_textOf {v : Value} (h : IsJson v) : stringify rt v = some (textOf rt v) := by
  obtain ⟨text, ht⟩ := exists_stringify rt h
  rw [textOf, ht]
  rfl

theorem elements_eq_map (items : List Value) : elements rt items = items.map (textOf rt) := by
  induction items with
  | nil => rfl
  | cons v rest ih => rw [elements, ih, List.map_cons, textOf]

def memberText (rt : Runtime) (field : String × Value) : String :=
  quote field.1 ++ ":" ++ textOf rt field.2

theorem members_eq_map {fields : List (String × Value)} (h : ∀ field ∈ fields, IsJson field.2) :
    members rt fields = fields.map (memberText rt) := by
  induction fields with
  | nil => rfl
  | cons field rest ih =>
      obtain ⟨key, v⟩ := field
      rw [List.forall_mem_cons] at h
      rw [members, stringify_eq_textOf h.1, ih h.2]
      rfl

theorem toList_textOf_arr (items : List Value) : (textOf rt (.arr items)).toList =
    '[' :: (",".intercalate (items.map (textOf rt))).toList ++ [']'] := by
  rw [textOf, stringify, Option.getD_some, String.toList_append, String.toList_append,
    elements_eq_map]
  rfl

theorem toList_textOf_obj {fields : List (String × Value)}
    (h : ∀ field ∈ fields, IsJson field.2) : (textOf rt (.obj fields)).toList =
    '{' :: (",".intercalate (fields.map (memberText rt))).toList ++ ['}'] := by
  rw [textOf, stringify, Option.getD_some, String.toList_append, String.toList_append,
    members_eq_map h]
  rfl

theorem textOf_opens (hrt : NumberTexts rt) {v : Value} (h : IsJson v) :
    ∃ c rest, (textOf rt v).toList = c :: rest ∧ c ∈ opening v :=
  stringify_opens hrt (stringify_eq_textOf h)

/-- The text of the value tells it from every other, and where it ends. -/
def Determined (rt : Runtime) (v : Value) : Prop :=
  IsJson v → ∀ w a b, IsJson w → Ends a → Ends b →
    (textOf rt v).toList ++ a = (textOf rt w).toList ++ b → v = w ∧ a = b

theorem items_inj {items : List Value} (ih : ∀ v ∈ items, Determined rt v)
    (hitems : ∀ v ∈ items, IsJson v) {others : List Value} (hothers : ∀ v ∈ others, IsJson v)
    {a b : List Char} (h : continued ']' (items.map (textOf rt)) a =
      continued ']' (others.map (textOf rt)) b) : items = others ∧ a = b := by
  have hclose : ']' ∈ separators := by decide
  induction items generalizing others with
  | nil =>
      cases others with
      | nil => exact ⟨rfl, (List.cons.inj h).2⟩
      | cons w others => cases (List.cons.inj h).1
  | cons v items ihitems =>
      cases others with
      | nil => cases (List.cons.inj h).1
      | cons w others =>
          rw [List.forall_mem_cons] at ih hitems hothers
          obtain ⟨rfl, hrest⟩ := ih.1 hitems.1 w _ _ hothers.1 (ends_continued hclose _ _)
            (ends_continued hclose _ _) (List.cons.inj h).2
          obtain ⟨rfl, hab⟩ := ihitems ih.2 hitems.2 hothers.2 hrest
          exact ⟨rfl, hab⟩

theorem fields_inj {fields : List (String × Value)}
    (ih : ∀ field ∈ fields, Determined rt field.2) (hfields : ∀ field ∈ fields, IsJson field.2)
    {others : List (String × Value)} (hothers : ∀ field ∈ others, IsJson field.2)
    {a b : List Char} (h : continued '}' (fields.map (memberText rt)) a =
      continued '}' (others.map (memberText rt)) b) : fields = others ∧ a = b := by
  have hclose : '}' ∈ separators := by decide
  induction fields generalizing others with
  | nil =>
      cases others with
      | nil => exact ⟨rfl, (List.cons.inj h).2⟩
      | cons w others => cases (List.cons.inj h).1
  | cons field fields ihfields =>
      cases others with
      | nil => cases (List.cons.inj h).1
      | cons other others =>
          obtain ⟨key, v⟩ := field
          obtain ⟨name, w⟩ := other
          rw [List.forall_mem_cons] at ih hfields hothers
          have hmember := (List.cons.inj h).2
          change (memberText rt (key, v)).toList ++ continued '}' (fields.map (memberText rt)) a =
            (memberText rt (name, w)).toList ++ continued '}' (others.map (memberText rt)) b
            at hmember
          simp only [memberText, String.toList_append, List.append_assoc] at hmember
          obtain ⟨rfl, hvalue⟩ := quote_inj hmember
          obtain ⟨rfl, hrest⟩ := ih.1 hfields.1 w _ _ hothers.1 (ends_continued hclose _ _)
            (ends_continued hclose _ _) (List.cons.inj hvalue).2
          obtain ⟨rfl, hab⟩ := ihfields ih.2 hfields.2 hothers.2 hrest
          exact ⟨rfl, hab⟩

/-- Followed by a separator or by nothing, two equal texts are of the same kind of value. -/
theorem opening_eq (hrt : NumberTexts rt) {v w : Value} (hv : IsJson v) (hw : IsJson w)
    {a b : List Char} (h : (textOf rt v).toList ++ a = (textOf rt w).toList ++ b) :
    opening w = opening v := by
  obtain ⟨c, rest, hc, hcv⟩ := textOf_opens hrt hv
  obtain ⟨d, others, hd, hdw⟩ := textOf_opens hrt hw
  rw [hc, hd] at h
  obtain ⟨rfl, _⟩ := List.cons.inj h
  exact opening_unique hdw hcv

theorem separator_not_number {a : List Char} (h : Ends a) :
    ∀ c ∈ a.head?, ¬ c ∈ numberCharacters := by
  have hapart : ∀ c ∈ separators, ¬ c ∈ numberCharacters := by decide
  cases a with
  | nil => simp
  | cons d rest =>
      intro c hc
      obtain rfl := Option.some.inj hc
      exact hapart d h

theorem items_open (hrt : NumberTexts rt) {items : List Value} (h : ∀ v ∈ items, IsJson v) :
    ∀ text ∈ items.map (textOf rt), ∃ c rest, text.toList = c :: rest ∧ c ≠ ']' := by
  intro text ht
  obtain ⟨v, hv, rfl⟩ := List.mem_map.mp ht
  obtain ⟨c, rest, hc, hopen⟩ := textOf_opens hrt (h v hv)
  have hapart : ∀ l ∈ openings, ']' ∉ l := by decide
  refine ⟨c, rest, hc, ?_⟩
  rintro rfl
  exact hapart _ (opening_mem v) hopen

theorem members_open (fields : List (String × Value)) :
    ∀ text ∈ fields.map (memberText rt), ∃ c rest, text.toList = c :: rest ∧ c ≠ '}' := by
  intro text ht
  obtain ⟨field, _, rfl⟩ := List.mem_map.mp ht
  rw [memberText, String.toList_append, String.toList_append, toList_quote]
  exact ⟨'"', _, rfl, by decide⟩

/-- No JSON value has the text of another one, whatever separator follows. -/
theorem determined (hrt : NumberTexts rt) (v : Value) : Determined rt v := by
  induction v using Value.induction with
  | undefined => exact fun hv => hv.elim
  | null =>
      intro hv w a b hw _ _ h
      have hopening := opening_eq hrt hv hw h
      cases w with
      | null => exact ⟨rfl, List.append_cancel_left h⟩
      | bool c => cases c <;> cases hopening
      | _ => cases hopening
  | bool c =>
      intro hv w a b hw _ _ h
      have hopening := opening_eq hrt hv hw h
      cases w with
      | bool d =>
          cases c <;> cases d <;> first
            | exact ⟨rfl, List.append_cancel_left h⟩
            | cases hopening
      | _ => cases c <;> cases hopening
  | num q =>
      intro hv w a b hw ha hb h
      have hopening := opening_eq hrt hv hw h
      cases w with
      | num p =>
          obtain ⟨htext, hab⟩ := append_inj_of_delimited (hrt.characters q) (hrt.characters p)
            (separator_not_number ha) (separator_not_number hb) h
          obtain rfl := hrt.injective (String.toList_inj.mp htext)
          exact ⟨rfl, hab⟩
      | bool c => cases c <;> cases hopening
      | _ => cases hopening
  | str s =>
      intro hv w a b hw _ _ h
      have hopening := opening_eq hrt hv hw h
      cases w with
      | str t =>
          obtain ⟨rfl, hab⟩ := quote_inj h
          exact ⟨rfl, hab⟩
      | bool c => cases c <;> cases hopening
      | _ => cases hopening
  | arr items ih =>
      intro hv w a b hw _ _ h
      have hopening := opening_eq hrt hv hw h
      cases w with
      | arr others =>
          rw [isJson_arr] at hv hw
          rw [toList_textOf_arr, toList_textOf_arr, List.cons_append, List.cons_append,
            List.append_assoc, List.append_assoc] at h
          obtain ⟨rfl, hab⟩ := items_inj ih hv hw (continued_of_intercalate
            (items_open hrt hv) (items_open hrt hw) (List.cons.inj h).2)
          exact ⟨rfl, hab⟩
      | bool c => cases c <;> cases hopening
      | _ => cases hopening
  | obj fields ih =>
      intro hv w a b hw _ _ h
      have hopening := opening_eq hrt hv hw h
      cases w with
      | obj others =>
          rw [isJson_obj] at hv hw
          rw [toList_textOf_obj hv.2, toList_textOf_obj hw.2, List.cons_append, List.cons_append,
            List.append_assoc, List.append_assoc] at h
          obtain ⟨rfl, hab⟩ := fields_inj ih hv.2 hw.2 (continued_of_intercalate
            (members_open fields) (members_open others) (List.cons.inj h).2)
          exact ⟨rfl, hab⟩
      | bool c => cases c <;> cases hopening
      | _ => cases hopening

/-- Different JSON values have different texts. -/
theorem stringify_inj (hrt : NumberTexts rt) {v w : Value} (hv : IsJson v) (hw : IsJson w) :
    stringify rt v = stringify rt w ↔ v = w := by
  constructor
  · intro h
    rw [stringify_eq_textOf hv, stringify_eq_textOf hw, Option.some.injEq] at h
    exact (determined hrt v hv w [] [] hw trivial trivial (by rw [h])).1
  · exact congrArg (stringify rt)

end Texts

end Admissorium.JavaScript.Json
