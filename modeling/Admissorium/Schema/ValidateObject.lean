import Admissorium.Findings
import Admissorium.JavaScript.JsonText
import Mathlib.Algebra.Order.Ring.Rat

/-!
# Validation against a schema

`src/schema/validate-object` collects what is wrong with a value. On the keywords the
shipped schemas use, each under the type it is for, it finds nothing exactly when the
value is valid in the sense of JSON Schema, where a keyword for one type of value says
nothing about values of the others (`validateObject_eq_nil_iff`).
-/
namespace Admissorium.ValidateObject
set_option autoImplicit false

open JavaScript Json Findings

/-- The keyword `type`. -/
inductive TypeKeyword where
  | one (name : String)
  | many (names : List String)
  deriving DecidableEq, Repr

/-- The keywords that are read; an enumeration lists texts. -/
inductive Schema where
  | mk (const_ : Option Value) (enum_ : Option (List String)) (type_ : Option TypeKeyword)
      (required : Option (List String)) (properties : Option (List (String × Schema)))
      (additionalProperties : Option Bool) (items : Option Schema)
      (minItems maxItems : Option Number)

/-! ## `validate-object.js` -/

def actualType : Value → String
  | .arr _ => "array"
  | .null => "null"
  | .obj _ => "object"
  | .str _ => "string"
  | .num _ => "number"
  | .bool _ => "boolean"
  | .undefined => "undefined"

def TypeKeyword.allowed : TypeKeyword → List String
  | one name => [name]
  | many names => names

/-- `if (schema.type)`: the empty name is no type. -/
def TypeKeyword.given : TypeKeyword → Bool
  | one name => name ≠ ""
  | many _ => true

/-- `Object.keys` of an object. Arrays and texts have keys as well, but get here only under
`properties` without a type. -/
def ownKeys : Value → List String
  | .obj fields => fields.map Prod.fst
  | _ => []

def constErrors (rt : Runtime) (value : Value) (const_ : Option Value) (pointer : String) :
    List String :=
  match const_ with
  | none => []
  | some c => pushIf (!value.strictEquals c)
      (pointer ++ ": expected const " ++ (stringify rt c).getD "undefined")

def enumErrors (value : Value) (enum_ : Option (List String)) (pointer : String) : List String :=
  match enum_ with
  | none => []
  | some texts => pushIf (!texts.any (fun s => value.strictEquals (.str s)))
      (pointer ++ ": expected enum " ++ "|".intercalate texts)

/-- The error after which nothing else is looked at. -/
def typeErrors (value : Value) (type_ : Option TypeKeyword) (pointer : String) : List String :=
  match type_ with
  | none => []
  | some type_ => pushIf (type_.given && !type_.allowed.contains (actualType value))
      (pointer ++ ": expected " ++ "|".intercalate type_.allowed ++ " got " ++ actualType value)

def requiredErrors (object : Value) (required : List String) (pointer : String) : List String :=
  required.flatMap fun key => pushIf (!(ownKeys object).contains key)
    (pointer ++ "." ++ key ++ ": missing required field")

def unexpectedErrors (object : Value) (allowed : List String) (pointer : String) : List String :=
  (ownKeys object).flatMap fun key => pushIf (!allowed.contains key)
    (pointer ++ "." ++ key ++ ": unexpected field")

/-- The elements of an array; other values count as empty. -/
def elementsOf : Value → List Value
  | .arr items => items
  | _ => []

def sizeErrors (rt : Runtime) (arr : List Value) (minItems maxItems : Option Number)
    (pointer : String) : List String :=
  (match minItems with
    | none => []
    | some min => pushIf ((arr.length : Number) < min)
        (pointer ++ ": expected minItems " ++ rt.numberToString min)) ++
  (match maxItems with
    | none => []
    | some max => pushIf (max < (arr.length : Number))
        (pointer ++ ": expected maxItems " ++ rt.numberToString max))

mutual
def validateObject (rt : Runtime) : Value → Schema → String → List String
  | value, .mk const_ enum_ type_ required properties additionalProperties items minItems maxItems,
      pointer =>
      let errors := constErrors rt value const_ pointer ++ enumErrors value enum_ pointer
      let mismatch := typeErrors value type_ pointer
      if mismatch ≠ [] then errors ++ mismatch
      else
        let object := value.or (.obj [])
        let arr := elementsOf value
        errors ++
        (if type_ = some (.one "object") ∨ properties.isSome then
          requiredErrors object (required.getD []) pointer ++
          propertyErrors rt object properties pointer ++
          (if additionalProperties = some false then
            unexpectedErrors object ((properties.getD []).map Prod.fst) pointer
          else [])
        else []) ++
        (if type_ = some (.one "array") ∨ items.isSome then
          sizeErrors rt arr minItems maxItems pointer ++ itemErrors rt arr items pointer
        else [])

def propertyErrors (rt : Runtime) : Value → Option (List (String × Schema)) → String → List String
  | object, some properties, pointer => childErrors rt object properties pointer
  | _, none, _ => []

def childErrors (rt : Runtime) : Value → List (String × Schema) → String → List String
  | _, [], _ => []
  | object, (key, child) :: rest, pointer =>
      (if (ownKeys object).contains key then
        validateObject rt (object.get key) child (pointer ++ "." ++ key)
      else []) ++ childErrors rt object rest pointer

def itemErrors (rt : Runtime) : List Value → Option Schema → String → List String
  | arr, some items, pointer => arr.zipIdx.flatMap fun (item, i) =>
      validateObject rt item items (pointer ++ "[" ++ rt.numberToString i ++ "]")
  | _, none, _ => []
end

/-! ## What the keywords mean -/

/-- The names of types in JSON Schema; an integral number has two. -/
def HasType (value : Value) (name : String) : Prop :=
  match value with
  | .null => name = "null"
  | .bool _ => name = "boolean"
  | .num q => name = "number" ∨ name = "integer" ∧ q.den = 1
  | .str _ => name = "string"
  | .arr _ => name = "array"
  | .obj _ => name = "object"
  | .undefined => False

/-- A value is valid when every keyword of the schema holds of it. A keyword for objects or
for arrays holds of all other values. -/
inductive Valid : Schema → Value → Prop where
  | intro {const_ : Option Value} {enum_ : Option (List String)} {type_ : Option TypeKeyword}
      {required : Option (List String)} {properties : Option (List (String × Schema))}
      {additionalProperties : Option Bool} {items : Option Schema}
      {minItems maxItems : Option Number} {value : Value}
      (holdsConst : ∀ c, const_ = some c → value = c)
      (holdsEnum : ∀ texts, enum_ = some texts → ∃ s ∈ texts, value = .str s)
      (holdsType : ∀ type, type_ = some type → ∃ name ∈ type.allowed, HasType value name)
      (holdsRequired : ∀ names fields, required = some names → value = .obj fields →
        ∀ key ∈ names, key ∈ fields.map Prod.fst)
      (holdsProperties : ∀ children fields, properties = some children → value = .obj fields →
        ∀ entry ∈ children, ∀ w, (entry.1, w) ∈ fields → Valid entry.2 w)
      (holdsAdditional : ∀ fields, additionalProperties = some false → value = .obj fields →
        ∀ key ∈ fields.map Prod.fst, key ∈ (properties.getD []).map Prod.fst)
      (holdsItems : ∀ schema elements, items = some schema → value = .arr elements →
        ∀ w ∈ elements, Valid schema w)
      (holdsMin : ∀ min elements, minItems = some min → value = .arr elements →
        min ≤ (elements.length : Number))
      (holdsMax : ∀ max elements, maxItems = some max → value = .arr elements →
        (elements.length : Number) ≤ max) :
      Valid (.mk const_ enum_ type_ required properties additionalProperties items minItems
        maxItems) value

/-- Neither an array nor an object. -/
def IsScalar : Value → Prop
  | .null | .bool _ | .num _ | .str _ => True
  | _ => False

def typeNames : List String := ["object", "array", "string", "number", "boolean", "null"]

/-- Schemas of the keywords that are used: scalar constants, one type, and the keywords for
objects and arrays under the type they are for. -/
inductive InFragment : Schema → Prop where
  | intro {const_ : Option Value} {type_ : Option TypeKeyword} {required : Option (List String)}
      {properties : Option (List (String × Schema))} {additionalProperties : Option Bool}
      {items : Option Schema} {minItems maxItems : Option Number}
      (scalar : ∀ c, const_ = some c → IsScalar c)
      (oneType : ∀ type, type_ = some type → ∃ name ∈ typeNames, type = .one name)
      (forObjects : required.isSome ∨ properties.isSome ∨ additionalProperties.isSome →
        type_ = some (.one "object"))
      (forArrays : items.isSome ∨ minItems.isSome ∨ maxItems.isSome →
        type_ = some (.one "array"))
      (children : ∀ entries, properties = some entries → ∀ entry ∈ entries, InFragment entry.2)
      (elements : ∀ schema, items = some schema → InFragment schema) :
      InFragment (.mk const_ none type_ required properties additionalProperties items minItems
        maxItems)

/-! ## The checks one by one -/

section Checks

variable {rt : Runtime} {value : Value} {pointer : String}

theorem pushIf_eq_nil {failed : Bool} {error : String} : pushIf failed error = [] ↔ failed = false := by
  cases failed <;> simp [pushIf]

theorem strictEquals_scalar {c : Value} (h : IsScalar c) : value.strictEquals c = true ↔ value = c := by
  cases c with
  | arr items => exact h.elim
  | obj fields => exact h.elim
  | undefined => exact h.elim
  | null => cases value <;> simp [Value.strictEquals]
  | bool b => cases value <;> simp [Value.strictEquals]
  | num q => cases value <;> simp [Value.strictEquals]
  | str s => cases value <;> simp [Value.strictEquals]

theorem constErrors_eq_nil_iff {const_ : Option Value} (h : ∀ c, const_ = some c → IsScalar c) :
    constErrors rt value const_ pointer = [] ↔ ∀ c, const_ = some c → value = c := by
  cases const_ with
  | none => simp [constErrors]
  | some c =>
      rw [constErrors, pushIf_eq_nil, Bool.not_eq_false', strictEquals_scalar (h c rfl)]
      simp

/-- `typeof` names the type, except that it knows no integers. -/
theorem actualType_eq_iff (hvalue : IsJson value) {name : String} (hname : name ∈ typeNames) :
    name = actualType value ↔ HasType value name := by
  have hinteger : name ≠ "integer" := by
    rintro rfl
    revert hname
    decide
  cases value with
  | undefined => exact hvalue.elim
  | num q => simp [actualType, HasType, hinteger]
  | _ => exact Iff.rfl

theorem typeErrors_eq_nil_iff (hvalue : IsJson value) {type_ : Option TypeKeyword}
    (h : ∀ type, type_ = some type → ∃ name ∈ typeNames, type = .one name) :
    typeErrors value type_ pointer = [] ↔
      ∀ type, type_ = some type → ∃ name ∈ type.allowed, HasType value name := by
  cases type_ with
  | none => simp [typeErrors]
  | some type =>
      obtain ⟨name, hname, rfl⟩ := h type rfl
      have hgiven : ∀ name ∈ typeNames, name ≠ "" := by decide
      have hgot : typeErrors value (some (.one name)) pointer = [] ↔ name = actualType value := by
        have hname' : (TypeKeyword.one name).given = true := decide_eq_true (hgiven name hname)
        rw [typeErrors, pushIf_eq_nil, hname', Bool.true_and, Bool.not_eq_false',
          List.contains_iff_mem]
        exact List.mem_singleton.trans eq_comm
      rw [hgot, actualType_eq_iff hvalue hname]
      simp [TypeKeyword.allowed]

theorem requiredErrors_eq_nil_iff (object : Value) (required : List String) :
    requiredErrors object required pointer = [] ↔ ∀ key ∈ required, key ∈ ownKeys object := by
  simp only [requiredErrors, List.flatMap_eq_nil_iff, pushIf_eq_nil, Bool.not_eq_false',
    List.contains_iff_mem]

theorem unexpectedErrors_eq_nil_iff (object : Value) (allowed : List String) :
    unexpectedErrors object allowed pointer = [] ↔ ∀ key ∈ ownKeys object, key ∈ allowed := by
  simp only [unexpectedErrors, List.flatMap_eq_nil_iff, pushIf_eq_nil, Bool.not_eq_false',
    List.contains_iff_mem]

theorem sizeErrors_eq_nil_iff (arr : List Value) (minItems maxItems : Option Number) :
    sizeErrors rt arr minItems maxItems pointer = [] ↔
      (∀ min, minItems = some min → min ≤ (arr.length : Number)) ∧
        ∀ max, maxItems = some max → (arr.length : Number) ≤ max := by
  cases minItems <;> cases maxItems <;> simp [sizeErrors, pushIf_eq_nil, not_lt]

theorem childErrors_eq_nil_iff (object : Value) (children : List (String × Schema)) :
    childErrors rt object children pointer = [] ↔ ∀ entry ∈ children,
      entry.1 ∈ ownKeys object →
        validateObject rt (object.get entry.1) entry.2 (pointer ++ "." ++ entry.1) = [] := by
  induction children with
  | nil => simp [childErrors]
  | cons entry rest ih =>
      obtain ⟨key, child⟩ := entry
      rw [childErrors, List.append_eq_nil_iff, ih, List.forall_mem_cons]
      refine and_congr_left fun _ => ?_
      by_cases hkey : key ∈ ownKeys object <;> simp [hkey]

theorem itemErrors_eq_nil_iff (arr : List Value) (items : Schema) :
    itemErrors rt arr (some items) pointer = [] ↔ ∀ entry ∈ arr.zipIdx,
      validateObject rt entry.1 items
        (pointer ++ "[" ++ rt.numberToString (entry.2 : Nat) ++ "]") = [] := by
  rw [itemErrors, List.flatMap_eq_nil_iff]

end Checks

/-! ## The whole of a schema -/

/-- The member of an object under one of its keys. -/
theorem get_iff_mem {fields : List (String × Value)} (hnodup : (fields.map Prod.fst).Nodup)
    {key : String} (hkey : key ∈ fields.map Prod.fst) (w : Value) :
    (key, w) ∈ fields ↔ w = (Value.obj fields).get key := by
  obtain ⟨field, hfield, rfl⟩ := List.mem_map.mp hkey
  have hlookup : fields.lookup field.1 = some field.2 :=
    (lookup_eq_some_iff_mem hnodup field.1 field.2).mpr hfield
  rw [Value.get, hlookup, Option.getD_some, ← lookup_eq_some_iff_mem hnodup, hlookup,
    Option.some.injEq, eq_comm]

section Whole

variable {rt : Runtime}

/-- The keywords for objects, of an object. -/
theorem objectErrors_eq_nil_iff {fields : List (String × Value)} (hvalue : IsJson (.obj fields))
    {required : Option (List String)} {properties : Option (List (String × Schema))}
    {additionalProperties : Option Bool} {pointer : String}
    (ih : ∀ entries, properties = some entries → ∀ entry ∈ entries, ∀ value pointer, IsJson value →
      (validateObject rt value entry.2 pointer = [] ↔ Valid entry.2 value)) :
    requiredErrors (.obj fields) (required.getD []) pointer ++
        propertyErrors rt (.obj fields) properties pointer ++
        (if additionalProperties = some false then
          unexpectedErrors (.obj fields) ((properties.getD []).map Prod.fst) pointer
        else []) = [] ↔
      (∀ names, required = some names → ∀ key ∈ names, key ∈ fields.map Prod.fst) ∧
      (∀ children, properties = some children → ∀ entry ∈ children, ∀ w, (entry.1, w) ∈ fields →
        Valid entry.2 w) ∧
      (additionalProperties = some false →
        ∀ key ∈ fields.map Prod.fst, key ∈ (properties.getD []).map Prod.fst) := by
  have hjson := (isJson_obj fields).mp hvalue
  rw [List.append_eq_nil_iff, List.append_eq_nil_iff, requiredErrors_eq_nil_iff, and_assoc]
  refine and_congr ?_ (and_congr ?_ ?_)
  · cases required with
    | none => simp
    | some names => simp [ownKeys]
  · cases properties with
    | none => simp [propertyErrors]
    | some children =>
        rw [propertyErrors, childErrors_eq_nil_iff]
        simp only [Option.some.injEq, forall_eq']
        refine forall₂_congr fun entry hentry => ?_
        constructor
        · intro h w hw
          have hkey : entry.1 ∈ fields.map Prod.fst := List.mem_map.mpr ⟨_, hw, rfl⟩
          have hget := (get_iff_mem hjson.1 hkey w).mp hw
          have hchild := h hkey
          rw [← hget] at hchild
          exact (ih children rfl entry hentry w _ (hjson.2 _ hw)).mp hchild
        · intro h hkey
          have hw := (get_iff_mem hjson.1 hkey _).mpr rfl
          exact (ih children rfl entry hentry _ _ (hjson.2 _ hw)).mpr (h _ hw)
  · by_cases hclosed : additionalProperties = some false
    · rw [if_pos hclosed, unexpectedErrors_eq_nil_iff]
      simp only [hclosed, true_imp_iff]
      exact Iff.rfl
    · simp [hclosed]

/-- The keywords for arrays, of an array. -/
theorem arrayErrors_eq_nil_iff {elements : List Value} (hvalue : IsJson (.arr elements))
    {items : Option Schema} {minItems maxItems : Option Number} {pointer : String}
    (ih : ∀ schema, items = some schema → ∀ value pointer, IsJson value →
      (validateObject rt value schema pointer = [] ↔ Valid schema value)) :
    sizeErrors rt elements minItems maxItems pointer ++ itemErrors rt elements items pointer = [] ↔
      (∀ schema, items = some schema → ∀ w ∈ elements, Valid schema w) ∧
      (∀ min, minItems = some min → min ≤ (elements.length : Number)) ∧
      ∀ max, maxItems = some max → (elements.length : Number) ≤ max := by
  have hjson := (isJson_arr elements).mp hvalue
  rw [List.append_eq_nil_iff, sizeErrors_eq_nil_iff, and_comm]
  refine and_congr_left fun _ => ?_
  cases items with
  | none => simp [itemErrors]
  | some schema =>
      rw [itemErrors_eq_nil_iff]
      simp only [Option.some.injEq, forall_eq']
      constructor
      · intro h w hw
        obtain ⟨i, hi, rfl⟩ := List.mem_iff_getElem.mp hw
        have hentry : (elements[i], i) ∈ elements.zipIdx := by
          rw [List.mem_zipIdx_iff_getElem?]
          exact List.getElem?_eq_getElem hi
        exact (ih schema rfl _ _ (hjson _ hw)).mp (h _ hentry)
      · intro h entry hentry
        have hw : entry.1 ∈ elements := List.fst_mem_of_mem_zipIdx hentry
        exact (ih schema rfl _ _ (hjson _ hw)).mpr (h _ hw)

theorem valid_mk_iff {const_ : Option Value} {enum_ : Option (List String)}
    {type_ : Option TypeKeyword} {required : Option (List String)}
    {properties : Option (List (String × Schema))} {additionalProperties : Option Bool}
    {items : Option Schema} {minItems maxItems : Option Number} {value : Value} :
    Valid (.mk const_ enum_ type_ required properties additionalProperties items minItems maxItems)
        value ↔
      (∀ c, const_ = some c → value = c) ∧
      (∀ texts, enum_ = some texts → ∃ s ∈ texts, value = .str s) ∧
      (∀ type, type_ = some type → ∃ name ∈ type.allowed, HasType value name) ∧
      (∀ fields, value = .obj fields →
        (∀ names, required = some names → ∀ key ∈ names, key ∈ fields.map Prod.fst) ∧
        (∀ children, properties = some children → ∀ entry ∈ children, ∀ w, (entry.1, w) ∈ fields →
          Valid entry.2 w) ∧
        (additionalProperties = some false →
          ∀ key ∈ fields.map Prod.fst, key ∈ (properties.getD []).map Prod.fst)) ∧
      ∀ elements, value = .arr elements →
        (∀ schema, items = some schema → ∀ w ∈ elements, Valid schema w) ∧
        (∀ min, minItems = some min → min ≤ (elements.length : Number)) ∧
        ∀ max, maxItems = some max → (elements.length : Number) ≤ max := by
  constructor
  · intro h
    cases h with
    | intro hconst henum htype hrequired hproperties hadditional hitems hmin hmax =>
        refine ⟨hconst, henum, htype, fun fields hv => ⟨fun names hn => hrequired names fields hn hv,
          fun children hc => hproperties children fields hc hv,
          fun hclosed => hadditional fields hclosed hv⟩,
          fun elements hv => ⟨fun schema hs => hitems schema elements hs hv,
            fun min hm => hmin min elements hm hv, fun max hm => hmax max elements hm hv⟩⟩
  · intro h
    obtain ⟨hconst, henum, htype, hobject, harray⟩ := h
    exact .intro hconst henum htype (fun names fields hn hv => (hobject fields hv).1 names hn)
      (fun children fields hc hv => (hobject fields hv).2.1 children hc)
      (fun fields hclosed hv => (hobject fields hv).2.2 hclosed)
      (fun schema elements hs hv => (harray elements hv).1 schema hs)
      (fun min elements hm hv => (harray elements hv).2.1 min hm)
      (fun max elements hm hv => (harray elements hv).2.2 max hm)

/-- A keyword that is not given. -/
theorem none_of_not_isSome {α : Type} {keyword : Option α} (h : ¬ keyword.isSome = true) :
    keyword = none := by
  cases keyword with
  | none => rfl
  | some a => exact absurd rfl h

/-- The keywords for objects say nothing where the type is another. -/
theorem objectPart_eq_nil_iff {value : Value} (hvalue : IsJson value) {type_ : Option TypeKeyword}
    {required : Option (List String)} {properties : Option (List (String × Schema))}
    {additionalProperties : Option Bool} {pointer : String}
    (hobject : type_ = some (.one "object") → ∃ fields, value = .obj fields)
    (forObjects : required.isSome ∨ properties.isSome ∨ additionalProperties.isSome →
      type_ = some (.one "object"))
    (ih : ∀ entries, properties = some entries → ∀ entry ∈ entries, ∀ value pointer, IsJson value →
      (validateObject rt value entry.2 pointer = [] ↔ Valid entry.2 value)) :
    (if type_ = some (.one "object") ∨ properties.isSome then
        requiredErrors (value.or (.obj [])) (required.getD []) pointer ++
        propertyErrors rt (value.or (.obj [])) properties pointer ++
        (if additionalProperties = some false then
          unexpectedErrors (value.or (.obj [])) ((properties.getD []).map Prod.fst) pointer
        else [])
      else []) = [] ↔
      ∀ fields, value = .obj fields →
        (∀ names, required = some names → ∀ key ∈ names, key ∈ fields.map Prod.fst) ∧
        (∀ children, properties = some children → ∀ entry ∈ children, ∀ w, (entry.1, w) ∈ fields →
          Valid entry.2 w) ∧
        (additionalProperties = some false →
          ∀ key ∈ fields.map Prod.fst, key ∈ (properties.getD []).map Prod.fst) := by
  by_cases htype : type_ = some (.one "object")
  · obtain ⟨fields, rfl⟩ := hobject htype
    have hor : (Value.obj fields).or (.obj []) = .obj fields := rfl
    rw [if_pos (Or.inl htype), hor, objectErrors_eq_nil_iff hvalue ih]
    simp only [Value.obj.injEq, forall_eq']
  · have hnone : ¬ (required.isSome ∨ properties.isSome ∨ additionalProperties.isSome) :=
      fun h => htype (forObjects h)
    rw [not_or, not_or] at hnone
    obtain ⟨hrequired, hproperties, hadditional⟩ := hnone
    rw [if_neg (not_or.mpr ⟨htype, hproperties⟩), none_of_not_isSome hrequired,
      none_of_not_isSome hproperties, none_of_not_isSome hadditional]
    simp

/-- Nor do those for arrays. -/
theorem arrayPart_eq_nil_iff {value : Value} (hvalue : IsJson value) {type_ : Option TypeKeyword}
    {items : Option Schema} {minItems maxItems : Option Number} {pointer : String}
    (harray : type_ = some (.one "array") → ∃ elements, value = .arr elements)
    (forArrays : items.isSome ∨ minItems.isSome ∨ maxItems.isSome →
      type_ = some (.one "array"))
    (ih : ∀ schema, items = some schema → ∀ value pointer, IsJson value →
      (validateObject rt value schema pointer = [] ↔ Valid schema value)) :
    (if type_ = some (.one "array") ∨ items.isSome then
        sizeErrors rt (elementsOf value) minItems maxItems pointer ++
          itemErrors rt (elementsOf value) items pointer
      else []) = [] ↔
      ∀ elements, value = .arr elements →
        (∀ schema, items = some schema → ∀ w ∈ elements, Valid schema w) ∧
        (∀ min, minItems = some min → min ≤ (elements.length : Number)) ∧
        ∀ max, maxItems = some max → (elements.length : Number) ≤ max := by
  by_cases htype : type_ = some (.one "array")
  · obtain ⟨elements, rfl⟩ := harray htype
    rw [if_pos (Or.inl htype), elementsOf, arrayErrors_eq_nil_iff hvalue ih]
    simp only [Value.arr.injEq, forall_eq']
  · have hnone : ¬ (items.isSome ∨ minItems.isSome ∨ maxItems.isSome) :=
      fun h => htype (forArrays h)
    rw [not_or, not_or] at hnone
    obtain ⟨hitems, hmin, hmax⟩ := hnone
    rw [if_neg (not_or.mpr ⟨htype, hitems⟩), none_of_not_isSome hitems, none_of_not_isSome hmin,
      none_of_not_isSome hmax]
    simp

theorem object_of_hasType {value : Value} (h : HasType value "object") :
    ∃ fields, value = .obj fields := by
  cases value <;> simp [HasType] at h
  exact ⟨_, rfl⟩

theorem array_of_hasType {value : Value} (h : HasType value "array") :
    ∃ elements, value = .arr elements := by
  cases value <;> simp [HasType] at h
  exact ⟨_, rfl⟩

/-- A schema of the fragment finds nothing wrong with a JSON value exactly when the value is
valid. -/
theorem validateObject_eq_nil_iff {schema : Schema} (hschema : InFragment schema) (value : Value)
    (pointer : String) (hvalue : IsJson value) :
    validateObject rt value schema pointer = [] ↔ Valid schema value := by
  induction hschema generalizing value pointer with
  | @intro const_ type_ required properties additionalProperties items minItems maxItems scalar
      oneType forObjects forArrays _ _ childrenIh elementsIh =>
      have hconst : constErrors rt value const_ pointer = [] ↔ ∀ c, const_ = some c → value = c :=
        constErrors_eq_nil_iff scalar
      have htype : typeErrors value type_ pointer = [] ↔
          ∀ type, type_ = some type → ∃ name ∈ type.allowed, HasType value name :=
        typeErrors_eq_nil_iff hvalue oneType
      rw [validateObject, valid_mk_iff, ← htype, ← hconst]
      by_cases hmismatch : typeErrors value type_ pointer = []
      · have hvalid := htype.mp hmismatch
        have hone : ∀ name, type_ = some (.one name) → HasType value name := by
          intro name hname
          obtain ⟨other, hother, hhas⟩ := hvalid _ hname
          obtain rfl := List.mem_singleton.mp hother
          exact hhas
        rw [if_neg (not_not.mpr hmismatch), List.append_eq_nil_iff, List.append_eq_nil_iff,
          objectPart_eq_nil_iff hvalue (fun h => object_of_hasType (hone _ h)) forObjects childrenIh,
          arrayPart_eq_nil_iff hvalue (fun h => array_of_hasType (hone _ h)) forArrays elementsIh]
        simp [enumErrors, hmismatch, and_assoc]
      · rw [if_pos hmismatch]
        simp [hmismatch]

end Whole

/-! ## `protected-truth-paths.schema.json` -/

def Schema.constant (c : Value) : Schema := .mk (some c) none none none none none none none none

/-- An object with these members and no others. -/
def Schema.record (properties : List (String × Schema)) : Schema :=
  .mk none none (some (.one "object")) (some (properties.map Prod.fst)) (some properties)
    (some false) none none none

def protectedTruthPathsSchema : Schema := .record [
  ("policy_type", .constant (.str "ADMISSORIUM_PROTECTED_TRUTH_PATHS")),
  ("schema_version", .constant (.str "1.0.0")),
  ("protected_paths", .mk none none (some (.one "array")) none none none
    (some (.mk none none (some (.one "string")) none none none none none none)) (some 1) none),
  ("if_touched", .record [
    ("automatic_projection_repair_allowed", .constant (.bool false)),
    ("direct_write_allowed", .constant (.bool false)),
    ("required_decision", .constant (.str "GOVERNANCE_REVIEW_REQUIRED_OR_BLOCKED"))])]

/-- Two of the paths of `protected-truth-paths.json`. -/
def protectedTruthPaths : Value := .obj [
  ("policy_type", .str "ADMISSORIUM_PROTECTED_TRUTH_PATHS"),
  ("schema_version", .str "1.0.0"),
  ("protected_paths", .arr [.str "law/**", .str "LICENSE"]),
  ("if_touched", .obj [
    ("automatic_projection_repair_allowed", .bool false),
    ("direct_write_allowed", .bool false),
    ("required_decision", .str "GOVERNANCE_REVIEW_REQUIRED_OR_BLOCKED")])]

theorem inFragment_constant {c : Value} (h : IsScalar c) : InFragment (.constant c) :=
  .intro (by simpa using h) (by simp) (by simp) (by simp) (by simp) (by simp)

theorem inFragment_record {properties : List (String × Schema)}
    (h : ∀ entry ∈ properties, InFragment entry.2) : InFragment (.record properties) :=
  .intro (by simp) (by simp [typeNames]) (by simp) (by simp) (by simpa using h) (by simp)

theorem inFragment_text :
    InFragment (.mk none none (some (.one "string")) none none none none none none) :=
  .intro (by simp) (by simp [typeNames]) (by simp) (by simp) (by simp) (by simp)

theorem inFragment_list {items : Schema} (h : InFragment items) (minItems : Option Number) :
    InFragment (.mk none none (some (.one "array")) none none none (some items) minItems none) :=
  .intro (by simp) (by simp [typeNames]) (by simp) (by simp) (by simp) (by simpa using h)

theorem inFragment_protectedTruthPathsSchema : InFragment protectedTruthPathsSchema := by
  apply inFragment_record
  simp only [List.forall_mem_cons, List.not_mem_nil, false_imp_iff, implies_true, and_true]
  refine ⟨inFragment_constant trivial, inFragment_constant trivial, inFragment_list inFragment_text _,
    inFragment_record ?_⟩
  simp only [List.forall_mem_cons, List.not_mem_nil, false_imp_iff, implies_true, and_true]
  exact ⟨inFragment_constant trivial, inFragment_constant trivial, inFragment_constant trivial⟩

theorem validateObject_eq_nil_iff_protectedTruthPaths :
    validateObject .ascii protectedTruthPaths protectedTruthPathsSchema "$" = [] ↔
      Valid protectedTruthPathsSchema protectedTruthPaths :=
  validateObject_eq_nil_iff inFragment_protectedTruthPathsSchema protectedTruthPaths "$"
    (by simp [protectedTruthPaths, IsJson, ItemsJson, FieldsJson])

end Admissorium.ValidateObject
