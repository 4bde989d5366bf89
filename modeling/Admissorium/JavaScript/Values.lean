import Mathlib.Data.List.Basic
import Mathlib.Data.List.Forall2

/-!
# JavaScript values

The part of the language every module of the program rests on: values as
`JSON.parse` and object literals build them, plain objects used as dictionaries,
`||`, property reads and the conversion of a value to text. A string is a
sequence of Unicode scalar values. Case mapping, number rendering and the two
digests of `node:crypto` belong to the host; they are parameters, collected in
`Runtime`, and the only thing assumed of them is what they do to ASCII letters.
-/
namespace Admissorium.JavaScript
set_option autoImplicit false

/-- A finite number. Doubles are rationals; `-0` and `0` print alike and are one value. -/
abbrev Number := Rat

inductive Value where
  | undefined
  | null
  | bool (b : Bool)
  | num (q : Number)
  | str (s : String)
  | arr (items : List Value)
  | obj (fields : List (String × Value))
  deriving Inhabited, Repr

/-- A record of values, by its fields. -/
abbrev Fields := List (String × Value)

def texts (items : List String) : Value := .arr (items.map .str)

/-- What a call can end with instead of a value. -/
inductive JsError where
  | typeError
  | syntaxError
  | error (message : String)
  deriving DecidableEq, Repr

/-! ## The host -/

def isAscii (s : String) : Bool := s.toList.all (fun c => c.toNat < 128)

def asciiUpper (s : String) : String := String.ofList (s.toList.map Char.toUpper)
def asciiLower (s : String) : String := String.ofList (s.toList.map Char.toLower)

/-- What the program calls and does not define. -/
structure Runtime where
  toUpperCase : String → String
  toLowerCase : String → String
  numberToString : Number → String
  sha256 : String → String
  hmacSha256 : String → String → String
  upper_ascii : ∀ s, isAscii s = true → toUpperCase s = asciiUpper s
  lower_ascii : ∀ s, isAscii s = true → toLowerCase s = asciiLower s

/-- A runtime that maps the case of ASCII letters only and leaves digests symbolic. -/
def Runtime.ascii : Runtime where
  toUpperCase := asciiUpper
  toLowerCase := asciiLower
  numberToString := fun q => toString q.num
  sha256 := fun text => "sha256:" ++ text
  hmacSha256 := fun key text => "hmac:" ++ key ++ ":" ++ text
  upper_ascii := fun _ _ => rfl
  lower_ascii := fun _ _ => rfl

theorem Runtime.toUpperCase_fixed (rt : Runtime) {s : String} (ha : isAscii s = true)
    (hu : asciiUpper s = s) : rt.toUpperCase s = s :=
  (rt.upper_ascii s ha).trans hu

/-! ## Dictionaries -/

/-- The own string-keyed members of a plain object. -/
abbrev Record (α : Type) := String → Option α

/-- `process.env`, or an object passed in its place. -/
abbrev Env := Record String

def Record.ofList {α : Type} (entries : List (String × α)) : Record α :=
  fun key => entries.lookup key

/-- `{ ...base, ...overrides }`. -/
def Record.spread {α : Type} (base overrides : Record α) : Record α :=
  fun key => (overrides key).or (base key)

/-- The names every plain object inherits from `Object.prototype`. -/
def objectPrototypeNames : List String :=
  ["constructor", "__defineGetter__", "__defineSetter__", "hasOwnProperty",
    "__lookupGetter__", "__lookupSetter__", "isPrototypeOf", "propertyIsEnumerable",
    "toString", "valueOf", "__proto__", "toLocaleString"]

/-- What `object[key]` finds. -/
inductive Member (α : Type) where
  | own (a : α)
  | inherited
  | absent
  deriving DecidableEq, Repr

def Record.member {α : Type} (r : Record α) (key : String) : Member α :=
  match r key with
  | some a => .own a
  | none => if key ∈ objectPrototypeNames then .inherited else .absent

/-- What the name of an inherited property writes into a text. -/
def inheritedText (key : String) : String :=
  if key = "__proto__" then "[object Object]"
  else "function " ++ (if key = "constructor" then "Object" else key) ++ "() \x7b [native code] \x7d"

theorem lookup_cons_ite {κ α : Type} [BEq κ] [LawfulBEq κ] [DecidableEq κ] (key name : κ) (a : α)
    (rest : List (κ × α)) :
    ((name, a) :: rest).lookup key = if key = name then some a else rest.lookup key := by
  rw [List.lookup_cons]
  by_cases h : key = name
  · simp [h]
  · rw [beq_eq_false_iff_ne.mpr h, if_neg h]

theorem lookup_eq_some_iff_mem {κ α : Type} [BEq κ] [LawfulBEq κ] [DecidableEq κ]
    {entries : List (κ × α)} (h : (entries.map Prod.fst).Nodup) (key : κ) (a : α) :
    entries.lookup key = some a ↔ (key, a) ∈ entries := by
  induction entries with
  | nil => simp
  | cons entry rest ih =>
      obtain ⟨name, b⟩ := entry
      rw [List.map_cons, List.nodup_cons] at h
      rw [lookup_cons_ite, List.mem_cons, Prod.mk.injEq]
      by_cases hk : key = name
      · subst hk
        have hrest : (key, a) ∉ rest := fun hm =>
          h.1 (List.mem_map.mpr ⟨_, hm, rfl⟩)
        simp [hrest, eq_comm]
      · rw [if_neg hk, ih h.2]
        simp [hk]

theorem Record.mem_of_ofList {α : Type} {entries : List (String × α)} {key : String} {a : α}
    (h : Record.ofList entries key = some a) : (key, a) ∈ entries := by
  obtain ⟨before, after, rfl, _⟩ := List.lookup_eq_some_iff.mp h
  simp

theorem Record.member_eq_own {α : Type} {r : Record α} {key : String} {a : α} :
    r.member key = .own a ↔ r key = some a := by
  unfold Record.member
  cases h : r key with
  | some b => simp
  | none => by_cases hk : key ∈ objectPrototypeNames <;> simp [hk]

/-- `undefined` used as a property key is the text `"undefined"`. -/
def propertyKey (key : Option String) : String := key.getD "undefined"

/-- `a || b` on optional text: both `undefined` and `""` fall through. -/
def orElseText (a b : Option String) : Option String :=
  match a with
  | some s => if s = "" then b else some s
  | none => b

/-- `a || "default"`. -/
def textOr (a : Option String) (default : String) : String :=
  (orElseText a (some default)).getD default

/-! ## Property reads and conversions -/

namespace Value

/-- `Boolean(value)`. -/
def truthy : Value → Bool
  | undefined | null => false
  | bool b => b
  | num q => q ≠ 0
  | str s => s ≠ ""
  | arr _ | obj _ => true

/-- `a || b`. -/
def or (a b : Value) : Value := if a.truthy then a else b

/-- An own property, `undefined` when there is none. The program reads no name
that arrays, strings or `Object.prototype` define. -/
def get : Value → String → Value
  | obj fields, key => (fields.lookup key).getD undefined
  | _, _ => undefined

/-- `value.key`, which throws on `null` and `undefined`. -/
def prop (v : Value) (key : String) : Except JsError Value :=
  match v with
  | undefined | null => .error .typeError
  | v => .ok (v.get key)

/-- A value that has one property has them all. -/
theorem prop_eq_get {v w : Value} {key : String} (h : v.prop key = .ok w) (other : String) :
    v.prop other = .ok (v.get other) := by
  cases v with
  | undefined => cases h
  | null => cases h
  | _ => rfl

/-- `a === b`, for values that are not one and the same object. -/
def strictEquals : Value → Value → Bool
  | undefined, undefined => true
  | null, null => true
  | bool a, bool b => a = b
  | num a, num b => a = b
  | str a, str b => a = b
  | _, _ => false

theorem strictEquals_str (v : Value) (s : String) : v.strictEquals (.str s) = true ↔ v = .str s := by
  cases v <;> simp [strictEquals]

theorem strictEquals_bool (v : Value) (b : Bool) : v.strictEquals (.bool b) = true ↔ v = .bool b := by
  cases v <;> simp [strictEquals]

/-- The receiver of `startsWith`, `includes` and the like must be text. -/
def asText : Value → Except JsError String
  | str s => .ok s
  | _ => .error .typeError

/-- The receiver of `map` and `filter` must be an array. -/
def asArray : Value → Except JsError (List Value)
  | arr items => .ok items
  | _ => .error .typeError

mutual
/-- `String(value)`. An object whose own `toString` is data has no text. -/
def toText (rt : Runtime) : Value → Except JsError String
  | undefined => .ok "undefined"
  | null => .ok "null"
  | bool b => .ok (if b then "true" else "false")
  | num q => .ok (rt.numberToString q)
  | str s => .ok s
  | arr items => do return ",".intercalate (← itemTexts rt items)
  | obj fields =>
      if fields.any (fun field => field.1 = "toString") then .error .typeError
      else .ok "[object Object]"

/-- Array elements join as text, with `null` and `undefined` left blank. -/
def itemTexts (rt : Runtime) : List Value → Except JsError (List String)
  | [] => .ok []
  | undefined :: rest => do return "" :: (← itemTexts rt rest)
  | null :: rest => do return "" :: (← itemTexts rt rest)
  | v :: rest => do return (← toText rt v) :: (← itemTexts rt rest)
end

end Value

/-- Induction over a value, its items and the values of its fields. -/
@[elab_as_elim]
theorem Value.induction {P : Value → Prop} (undefined : P .undefined) (null : P .null)
    (bool : ∀ b, P (.bool b)) (num : ∀ q, P (.num q)) (str : ∀ s, P (.str s))
    (arr : ∀ items, (∀ v ∈ items, P v) → P (.arr items))
    (obj : ∀ fields, (∀ field ∈ fields, P field.2) → P (.obj fields)) : ∀ v, P v :=
  @Value.rec P (fun items => ∀ v ∈ items, P v) (fun fields => ∀ field ∈ fields, P field.2)
    (fun field => P field.2) undefined null bool num str arr obj
    (fun _ h => nomatch h)
    (fun _ _ hv hrest => List.forall_mem_cons.mpr ⟨hv, hrest⟩)
    (fun _ h => nomatch h)
    (fun _ _ hfield hrest => List.forall_mem_cons.mpr ⟨hfield, hrest⟩)
    (fun _ _ hv => hv)

/-! ## Calls and loops that may throw -/

section Throwing
variable {α β ε : Type}

theorem bind_eq_ok {x : Except ε α} {f : α → Except ε β} {b : β} :
    (x >>= f) = .ok b ↔ ∃ a, x = .ok a ∧ f a = .ok b := by
  cases x with
  | error e =>
      constructor
      · intro h
        cases h
      · intro hcase
        obtain ⟨_, h, _⟩ := hcase
        cases h
  | ok a =>
      constructor
      · exact fun h => ⟨a, rfl, h⟩
      · intro hcase
        obtain ⟨_, h, hb⟩ := hcase
        cases h
        exact hb

theorem ok_bind (a : α) (f : α → Except ε β) : ((.ok a : Except ε α) >>= f) = f a := rfl

theorem bind_of_ok {x : Except ε α} {f : α → Except ε β} {a : α} (h : x = .ok a) :
    (x >>= f) = f a := by
  rw [h, ok_bind]

theorem exists_bind_ok {x : Except ε α} {f : α → Except ε β} {a : α} (hx : x = .ok a)
    (hf : ∃ b, f a = .ok b) : ∃ b, (x >>= f) = .ok b := by
  rw [hx]
  exact hf

/-- Two calls that do not depend on each other both have to return. -/
theorem exists_bind₂_iff {γ : Type} {x : Except ε α} {y : Except ε β} {f : α → β → γ} :
    (∃ c, (x >>= fun a => y >>= fun b => .ok (f a b)) = .ok c) ↔
      (∃ a, x = .ok a) ∧ ∃ b, y = .ok b := by
  constructor
  · intro hcase
    obtain ⟨c, h⟩ := hcase
    obtain ⟨a, ha, h⟩ := bind_eq_ok.mp h
    obtain ⟨b, hb, _⟩ := bind_eq_ok.mp h
    exact ⟨⟨a, ha⟩, b, hb⟩
  · intro hcase
    obtain ⟨⟨a, ha⟩, b, hb⟩ := hcase
    exact exists_bind_ok ha (exists_bind_ok hb ⟨_, rfl⟩)

theorem anyM_eq_false_iff (f : α → Except ε Bool) (l : List α) :
    l.anyM f = .ok false ↔ ∀ a ∈ l, f a = .ok false := by
  induction l with
  | nil => simp [pure, Except.pure]
  | cons a l ih =>
      rw [List.anyM, bind_eq_ok, List.forall_mem_cons, ← ih]
      constructor
      · intro hcase
        obtain ⟨b, hb, h⟩ := hcase
        cases b with
        | true => cases h
        | false => exact ⟨hb, h⟩
      · intro hcase
        obtain ⟨ha, h⟩ := hcase
        exact ⟨false, ha, h⟩

theorem findM?_eq_none_iff (f : α → Except ε Bool) (l : List α) :
    l.findM? f = .ok none ↔ ∀ a ∈ l, f a = .ok false := by
  induction l with
  | nil => simp [pure, Except.pure]
  | cons a l ih =>
      rw [List.findM?, bind_eq_ok, List.forall_mem_cons, ← ih]
      constructor
      · intro hcase
        obtain ⟨b, hb, h⟩ := hcase
        cases b with
        | true => cases h
        | false => exact ⟨hb, h⟩
      · intro hcase
        obtain ⟨ha, h⟩ := hcase
        exact ⟨false, ha, h⟩

theorem findSomeM?_eq_none_iff (f : α → Except ε (Option β)) (l : List α) :
    l.findSomeM? f = .ok none ↔ ∀ a ∈ l, f a = .ok none := by
  induction l with
  | nil => simp [pure, Except.pure]
  | cons a l ih =>
      rw [List.findSomeM?, bind_eq_ok, List.forall_mem_cons, ← ih]
      constructor
      · intro hcase
        obtain ⟨b, hb, h⟩ := hcase
        cases b with
        | some b => cases h
        | none => exact ⟨hb, h⟩
      · intro hcase
        obtain ⟨ha, h⟩ := hcase
        exact ⟨none, ha, h⟩

/-! Where the function never fails, these are the searches of the pure function. -/

theorem anyM_eq_ok {f : α → Except ε Bool} {g : α → Bool} {l : List α}
    (h : ∀ a ∈ l, f a = .ok (g a)) : l.anyM f = .ok (l.any g) := by
  induction l with
  | nil => rfl
  | cons a l ih =>
      rw [List.forall_mem_cons] at h
      rw [List.anyM, h.1, List.any_cons]
      change (match g a with
        | true => pure true
        | false => l.anyM f) = _
      cases hg : g a with
      | true => rfl
      | false => exact ih h.2

theorem findM?_eq_ok {f : α → Except ε Bool} {g : α → Bool} {l : List α}
    (h : ∀ a ∈ l, f a = .ok (g a)) : l.findM? f = .ok (l.find? g) := by
  induction l with
  | nil => rfl
  | cons a l ih =>
      rw [List.forall_mem_cons] at h
      rw [List.findM?, h.1, List.find?_cons]
      change (match g a with
        | true => pure (some a)
        | false => l.findM? f) = _
      cases hg : g a with
      | true => rfl
      | false => exact ih h.2

theorem findSomeM?_eq_ok {f : α → Except ε (Option β)} {g : α → Option β} {l : List α}
    (h : ∀ a ∈ l, f a = .ok (g a)) : l.findSomeM? f = .ok (l.findSome? g) := by
  induction l with
  | nil => rfl
  | cons a l ih =>
      rw [List.forall_mem_cons] at h
      rw [List.findSomeM?, h.1, List.findSome?_cons]
      change (match g a with
        | some b => pure (some b)
        | none => l.findSomeM? f) = _
      cases hg : g a with
      | some b => rfl
      | none => exact ih h.2

theorem mapM_eq_ok_iff (f : α → Except ε β) (l : List α) (ms : List β) :
    l.mapM f = .ok ms ↔ List.Forall₂ (fun a b => f a = .ok b) l ms := by
  induction l generalizing ms with
  | nil =>
      rw [List.mapM_nil, List.forall₂_nil_left_iff]
      constructor
      · intro h
        cases h
        rfl
      · rintro rfl
        rfl
  | cons a l ih =>
      rw [List.mapM_cons, bind_eq_ok, List.forall₂_cons_left_iff]
      constructor
      · intro hcase
        obtain ⟨b, hb, h⟩ := hcase
        obtain ⟨bs, hbs, h⟩ := bind_eq_ok.mp h
        cases h
        exact ⟨b, bs, hb, (ih bs).mp hbs, rfl⟩
      · intro hcase
        obtain ⟨b, bs, hb, hbs, rfl⟩ := hcase
        exact ⟨b, hb, bind_eq_ok.mpr ⟨bs, (ih bs).mpr hbs, rfl⟩⟩

theorem mem_mapM_iff {f : α → Except ε β} {l : List α} {ms : List β} (h : l.mapM f = .ok ms)
    (b : β) : b ∈ ms ↔ ∃ a ∈ l, f a = .ok b := by
  rw [mapM_eq_ok_iff] at h
  induction h with
  | nil => simp
  | @cons a c l ms hac _ ih =>
      rw [List.mem_cons, ih, List.exists_mem_cons_iff, hac, Except.ok.injEq, eq_comm]

theorem exists_mapM_eq_ok {f : α → Except ε β} {l : List α} (h : ∀ a ∈ l, ∃ b, f a = .ok b) :
    ∃ ms, l.mapM f = .ok ms := by
  induction l with
  | nil => exact ⟨[], rfl⟩
  | cons a l ih =>
      obtain ⟨b, hb⟩ := h a (by simp)
      obtain ⟨bs, hbs⟩ := ih (fun c hc => h c (by simp [hc]))
      refine ⟨b :: bs, ?_⟩
      rw [List.mapM_cons, hb, hbs]
      rfl

theorem exists_of_mem_of_mapM {f : α → Except ε β} {l : List α} {ms : List β}
    (h : l.mapM f = .ok ms) {a : α} (ha : a ∈ l) : ∃ b ∈ ms, f a = .ok b := by
  rw [mapM_eq_ok_iff] at h
  induction h with
  | nil => cases ha
  | @cons c d l ms hc _ ih =>
      rcases List.mem_cons.mp ha with rfl | ha
      · exact ⟨d, by simp, hc⟩
      · obtain ⟨b, hb, hf⟩ := ih ha
        exact ⟨b, by simp [hb], hf⟩

theorem mapM_eq_ok_map {f : α → Except ε β} {g : α → β} {l : List α}
    (h : ∀ a ∈ l, f a = .ok (g a)) : l.mapM f = .ok (l.map g) := by
  rw [mapM_eq_ok_iff, List.forall₂_map_right_iff, List.forall₂_same]
  exact h

/-- A relation to the items of a list is carried through a loop over it, position by position. -/
theorem forall₂_of_mapM {γ : Type} {R : γ → α → Prop} {S : γ → β → Prop} {f : α → Except ε β}
    {cs : List γ} {l : List α} {ms : List β} (h : l.mapM f = .ok ms) (hl : List.Forall₂ R cs l)
    (hstep : ∀ c a b, R c a → f a = .ok b → S c b) : List.Forall₂ S cs ms := by
  rw [mapM_eq_ok_iff] at h
  induction h generalizing cs with
  | nil =>
      rw [List.forall₂_nil_right_iff] at hl ⊢
      exact hl
  | cons hb _ ih =>
      cases hl with
      | cons ha hrest => exact .cons (hstep _ _ _ ha hb) (ih hrest)

theorem exists_of_forall₂_right {γ : Type} {R : γ → β → Prop} {cs : List γ} {ms : List β}
    (h : List.Forall₂ R cs ms) {b : β} (hb : b ∈ ms) : ∃ c ∈ cs, R c b := by
  induction h with
  | nil => cases hb
  | @cons c b' _ _ hcb _ ih =>
      rcases List.mem_cons.mp hb with rfl | hb
      · exact ⟨c, List.mem_cons_self, hcb⟩
      · obtain ⟨d, hd, hdb⟩ := ih hb
        exact ⟨d, List.mem_cons_of_mem _ hd, hdb⟩

theorem exists_of_forall₂_left {γ : Type} {R : γ → β → Prop} {cs : List γ} {ms : List β}
    (h : List.Forall₂ R cs ms) {c : γ} (hc : c ∈ cs) : ∃ b ∈ ms, R c b :=
  exists_of_forall₂_right h.flip hc

theorem map_eq_of_forall₂ {γ δ : Type} {R : γ → β → Prop} {cs : List γ} {ms : List β}
    {f : β → δ} {g : γ → δ} (h : List.Forall₂ R cs ms) (hfg : ∀ c b, R c b → f b = g c) :
    ms.map f = cs.map g := by
  induction h with
  | nil => rfl
  | cons hb _ ih => rw [List.map_cons, List.map_cons, hfg _ _ hb, ih]

/-- A loop runs to its end exactly when every step does. -/
theorem exists_mapM_eq_ok_iff (f : α → Except ε β) (l : List α) :
    (∃ ms, l.mapM f = .ok ms) ↔ ∀ a ∈ l, ∃ b, f a = .ok b := by
  constructor
  · intro h a ha
    obtain ⟨ms, hms⟩ := h
    obtain ⟨b, _, hb⟩ := exists_of_mem_of_mapM hms ha
    exact ⟨b, hb⟩
  · exact exists_mapM_eq_ok

end Throwing

end Admissorium.JavaScript
