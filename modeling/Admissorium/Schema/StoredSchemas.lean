import Admissorium.Schema.ValidateObject
import Mathlib.Tactic.Basic

/-!
# Schemas as they are stored

`validate-object.js` gets its schema from `JSON.parse` and reads the keywords while it goes. On a
JSON value that describes a schema of the fragment this is the validation against that schema, so
it finds nothing exactly when the value is valid.
-/
namespace Admissorium.ValidateObject.Stored
set_option autoImplicit false

open JavaScript Json Findings

/-! ## Reading keywords -/

/-- `for (const key of keys)`. -/
def iterated : Value → Except JsError (List Value)
  | .arr items => .ok items
  | .str s => .ok (s.toList.map (fun c => .str (String.singleton c)))
  | _ => .error .typeError

/-- `schema.const !== undefined && value !== schema.const`. -/
def constErrors (rt : Runtime) (value const_ : Value) (pointer : String) : List String :=
  pushIf (!const_.strictEquals .undefined && !value.strictEquals const_)
    (pointer ++ ": expected const " ++ (stringify rt const_).getD "undefined")

/-- `schema.enum && !schema.enum.includes(value)`; a text has `includes` but no `join`. -/
def enumErrors (rt : Runtime) (value enum_ : Value) (pointer : String) :
    Except JsError (List String) :=
  if enum_.truthy then
    match enum_ with
    | .arr items =>
        if items.any value.strictEquals then .ok []
        else do return [pointer ++ ": expected enum " ++ "|".intercalate (← Value.itemTexts rt items)]
    | .str s => do
        if Text.includes s (← value.toText rt) then return [] else .error .typeError
    | _ => .error .typeError
  else .ok []

/-- `Array.isArray(schema.type) ? schema.type : [schema.type]`. -/
def allowedTypes : Value → List Value
  | .arr items => items
  | v => [v]

def typeErrors (rt : Runtime) (value type_ : Value) (pointer : String) :
    Except JsError (List String) :=
  if type_.truthy && !(allowedTypes type_).any (fun v => v.strictEquals (.str (actualType value))) then do
    return [pointer ++ ": expected " ++ "|".intercalate (← Value.itemTexts rt (allowedTypes type_)) ++
      " got " ++ actualType value]
  else .ok []

def requiredErrors (rt : Runtime) (object required : Value) (pointer : String) :
    Except JsError (List String) := do
  let keys ← iterated (required.or (.arr []))
  let errors ← keys.mapM fun key => do
    let name ← key.toText rt
    return pushIf (!(ownKeys object).contains name)
      (pointer ++ "." ++ name ++ ": missing required field")
  return errors.flatten

/-- `Object.entries` of an object. -/
def entriesOf : Value → List (String × Value)
  | .obj fields => fields
  | _ => []

def closedErrors (object properties additionalProperties : Value) (pointer : String) :
    List String :=
  if additionalProperties.strictEquals (.bool false) then
    unexpectedErrors object ((entriesOf properties).map Prod.fst) pointer
  else []

/-- `arr.length < schema.minItems` and `arr.length > schema.maxItems`, for bounds that are
numbers. -/
def sizeErrors (rt : Runtime) (arr : List Value) (minItems maxItems : Value) (pointer : String) :
    List String :=
  (match minItems with
    | .num min => pushIf ((arr.length : Number) < min)
        (pointer ++ ": expected minItems " ++ rt.numberToString min)
    | _ => []) ++
  (match maxItems with
    | .num max => pushIf (max < (arr.length : Number))
        (pointer ++ ": expected maxItems " ++ rt.numberToString max)
    | _ => [])

theorem sizeOf_get_lt {v : Value} {key : String} (h : (v.get key).truthy = true) :
    sizeOf (v.get key) < sizeOf v := by
  cases v with
  | obj fields =>
      rw [Value.get] at h ⊢
      cases hlookup : fields.lookup key with
      | none =>
          rw [hlookup] at h
          cases h
      | some w =>
          obtain ⟨before, after, rfl, _⟩ := List.lookup_eq_some_iff.mp hlookup
          have hmem := List.sizeOf_lt_of_mem
            (List.mem_append_right before (List.mem_cons_self (a := (key, w)) (l := after)))
          rw [Prod.mk.sizeOf_spec] at hmem
          rw [Option.getD_some, Value.obj.sizeOf_spec]
          omega
  | _ => cases h

theorem sizeOf_entriesOf_le (v : Value) : sizeOf (entriesOf v) ≤ sizeOf v := by
  cases v with
  | obj fields =>
      show sizeOf fields ≤ _
      rw [Value.obj.sizeOf_spec]
      omega
  | _ =>
      show sizeOf ([] : List (String × Value)) ≤ _
      rw [List.nil.sizeOf_spec]
      simp

mutual
def validateObject (rt : Runtime) (value schema : Value) (pointer : String) :
    Except JsError (List String) := do
  let const_ ← schema.prop "const"
  let enums ← enumErrors rt value (schema.get "enum") pointer
  let errors := constErrors rt value const_ pointer ++ enums
  let mismatch ← typeErrors rt value (schema.get "type") pointer
  if mismatch ≠ [] then return errors ++ mismatch
  else
    let object := value.or (.obj [])
    let arr := elementsOf value
    let objectPart ←
      (if (schema.get "type").strictEquals (.str "object") || (schema.get "properties").truthy then
        do
        let missing ← requiredErrors rt object (schema.get "required") pointer
        let children ←
          (if _h : (schema.get "properties").truthy then
            childErrors rt object (entriesOf (schema.get "properties")) pointer
          else .ok [])
        .ok (missing ++ children ++ closedErrors object (schema.get "properties")
          (schema.get "additionalProperties") pointer)
      else .ok [])
    let arrayPart ←
      (if (schema.get "type").strictEquals (.str "array") || (schema.get "items").truthy then do
        let elements ←
          (if _h : (schema.get "items").truthy then
            itemErrors rt arr 0 (schema.get "items") pointer
          else .ok [])
        .ok (sizeErrors rt arr (schema.get "minItems") (schema.get "maxItems") pointer ++ elements)
      else .ok [])
    return errors ++ objectPart ++ arrayPart
termination_by (sizeOf schema, 0)
decreasing_by
  all_goals have hget := sizeOf_get_lt _h
  all_goals first
    | exact Prod.Lex.left _ _ hget
    | exact Prod.Lex.left _ _ (Nat.lt_of_le_of_lt (sizeOf_entriesOf_le _) hget)

def childErrors (rt : Runtime) (object : Value) (children : List (String × Value))
    (pointer : String) : Except JsError (List String) :=
  match children with
  | [] => .ok []
  | (key, child) :: rest => do
      let errors ←
        if (ownKeys object).contains key then
          validateObject rt (object.get key) child (pointer ++ "." ++ key)
        else .ok []
      return errors ++ (← childErrors rt object rest pointer)
termination_by (sizeOf children, 0)

def itemErrors (rt : Runtime) (arr : List Value) (i : Nat) (items : Value) (pointer : String) :
    Except JsError (List String) :=
  match arr with
  | [] => .ok []
  | item :: rest => do
      let errors ← validateObject rt item items (pointer ++ "[" ++ rt.numberToString i ++ "]")
      return errors ++ (← itemErrors rt rest (i + 1) items pointer)
termination_by (sizeOf items, arr.length + 1)
end

/-! ## What a stored schema describes -/

def typeValue : TypeKeyword → Value
  | .one name => .str name
  | .many names => .arr (names.map .str)

mutual
/-- The keywords of the value are those of the schema; what else it has is not read. -/
def Describes : Value → Schema → Prop
  | v, .mk const_ enum_ type_ required properties additionalProperties items minItems maxItems =>
      (∃ fields, v = .obj fields) ∧ v.get "const" = const_.getD .undefined ∧
      v.get "enum" = (enum_.map (fun texts => .arr (texts.map .str))).getD .undefined ∧
      v.get "type" = (type_.map typeValue).getD .undefined ∧
      v.get "required" = (required.map (fun names => .arr (names.map .str))).getD .undefined ∧
      DescribesMembers (v.get "properties") properties ∧
      v.get "additionalProperties" = (additionalProperties.map .bool).getD .undefined ∧
      DescribesItems (v.get "items") items ∧ v.get "minItems" = (minItems.map .num).getD .undefined ∧
      v.get "maxItems" = (maxItems.map .num).getD .undefined

def DescribesMembers : Value → Option (List (String × Schema)) → Prop
  | v, none => v = .undefined
  | v, some children => ∃ fields, v = .obj fields ∧ DescribesEach fields children

def DescribesEach : List (String × Value) → List (String × Schema) → Prop
  | fields, [] => fields = []
  | fields, (key, schema) :: rest => ∃ v more, fields = (key, v) :: more ∧ Describes v schema ∧
      DescribesEach more rest

def DescribesItems : Value → Option Schema → Prop
  | v, none => v = .undefined
  | v, some schema => Describes v schema
end

section Described
variable {rt : Runtime} {value stored object : Value} {pointer : String}

theorem constErrors_described {const_ : Option Value} (hscalar : ∀ c, const_ = some c → IsScalar c) :
    constErrors rt value (const_.getD .undefined) pointer =
      ValidateObject.constErrors rt value const_ pointer := by
  cases const_ with
  | none => rfl
  | some c =>
      have hdefined : c.strictEquals .undefined = false := by
        have hc := hscalar c rfl
        cases c <;> first | rfl | exact hc.elim
      rw [constErrors, Option.getD_some, hdefined]
      rfl

theorem typeErrors_described {type_ : Option TypeKeyword}
    (hone : ∀ type, type_ = some type → ∃ name ∈ typeNames, type = .one name) :
    typeErrors rt value ((type_.map typeValue).getD .undefined) pointer =
      .ok (ValidateObject.typeErrors value type_ pointer) := by
  cases type_ with
  | none => rfl
  | some type =>
      obtain ⟨name, hname, rfl⟩ := hone type rfl
      have hgiven : ∀ name ∈ typeNames, name ≠ "" := by decide
      have htruthy : (Value.str name).truthy = true := decide_eq_true (hgiven name hname)
      have hallowed : (allowedTypes (.str name)).any
          (fun v => v.strictEquals (.str (actualType value))) =
          (TypeKeyword.one name).allowed.contains (actualType value) := by
        show [Value.str name].any _ = [name].contains (actualType value)
        rw [List.any_cons, List.any_nil, Bool.or_false, List.contains_cons, List.contains_nil,
          Bool.or_false, Bool.beq_comm]
        rfl
      show typeErrors rt value (.str name) pointer = _
      rw [typeErrors, htruthy, Bool.true_and, hallowed, ValidateObject.typeErrors]
      have hgivenName : (TypeKeyword.one name).given = true := decide_eq_true (hgiven name hname)
      rw [hgivenName, Bool.true_and]
      cases (TypeKeyword.one name).allowed.contains (actualType value) <;> rfl

theorem isType_described (type_ : Option TypeKeyword) (name : String) :
    ((type_.map typeValue).getD .undefined).strictEquals (.str name) = true ↔
      type_ = some (.one name) := by
  rw [Value.strictEquals_str]
  cases type_ with
  | none => simp
  | some type => cases type <;> simp [typeValue]

theorem requiredErrors_described (required : Option (List String)) :
    requiredErrors rt object ((required.map (fun names => .arr (names.map .str))).getD .undefined)
      pointer = .ok (ValidateObject.requiredErrors object (required.getD []) pointer) := by
  have hnames : ∀ names : List String, (names.map Value.str).mapM (fun key => do
      let name ← key.toText rt
      return pushIf (!(ownKeys object).contains name)
        (pointer ++ "." ++ name ++ ": missing required field") : Value → Except JsError (List String)) =
      .ok (names.map (fun name => pushIf (!(ownKeys object).contains name)
        (pointer ++ "." ++ name ++ ": missing required field"))) := by
    intro names
    rw [List.mapM_map]
    exact mapM_eq_ok_map (fun _ _ => rfl)
  cases required with
  | none => rfl
  | some names =>
      have hor : (Value.arr (names.map .str)).or (.arr []) = .arr (names.map .str) := rfl
      rw [Option.map_some, Option.getD_some, requiredErrors, hor, iterated, ok_bind, hnames, ok_bind,
        ← List.flatMap_def]
      rfl

theorem sizeErrors_described (arr : List Value) (minItems maxItems : Option Number) :
    sizeErrors rt arr ((minItems.map .num).getD .undefined) ((maxItems.map .num).getD .undefined)
      pointer = ValidateObject.sizeErrors rt arr minItems maxItems pointer := by
  cases minItems <;> cases maxItems <;> rfl

theorem keys_of_describesEach {fields : List (String × Value)} {children : List (String × Schema)}
    (h : DescribesEach fields children) : fields.map Prod.fst = children.map Prod.fst := by
  induction children generalizing fields with
  | nil =>
      rw [DescribesEach] at h
      rw [h]
      rfl
  | cons child rest ih =>
      obtain ⟨key, schema⟩ := child
      rw [DescribesEach] at h
      obtain ⟨v, more, rfl, _, hmore⟩ := h
      rw [List.map_cons, List.map_cons, ih hmore]

theorem closedErrors_described {properties : Option (List (String × Schema))} {v : Value}
    (h : DescribesMembers v properties) (additionalProperties : Option Bool) :
    closedErrors object v ((additionalProperties.map .bool).getD .undefined) pointer =
      if additionalProperties = some false then
        unexpectedErrors object ((properties.getD []).map Prod.fst) pointer
      else [] := by
  have hkeys : (entriesOf v).map Prod.fst = (properties.getD []).map Prod.fst := by
    cases properties with
    | none =>
        rw [DescribesMembers] at h
        rw [h]
        rfl
    | some children =>
        rw [DescribesMembers] at h
        obtain ⟨fields, rfl, heach⟩ := h
        exact keys_of_describesEach heach
  rw [closedErrors, hkeys]
  rcases additionalProperties with _ | _ | _ <;> rfl

/-! ### Members and items -/

theorem childErrors_described {fields : List (String × Value)} {children : List (String × Schema)}
    (h : DescribesEach fields children)
    (hobject : ∀ key ∈ ownKeys object, IsJson (object.get key))
    (ih : ∀ entry ∈ children, ∀ stored value pointer, Describes stored entry.2 → IsJson value →
      validateObject rt value stored pointer =
        .ok (ValidateObject.validateObject rt value entry.2 pointer)) :
    childErrors rt object fields pointer =
      .ok (ValidateObject.childErrors rt object children pointer) := by
  induction children generalizing fields with
  | nil =>
      rw [DescribesEach] at h
      rw [h, childErrors, ValidateObject.childErrors]
  | cons child rest ihrest =>
      obtain ⟨key, schema⟩ := child
      rw [DescribesEach] at h
      obtain ⟨v, more, rfl, hv, hmore⟩ := h
      obtain ⟨hfirst, hothers⟩ := List.forall_mem_cons.mp ih
      rw [childErrors, ValidateObject.childErrors, ihrest hmore hothers]
      by_cases hkey : (ownKeys object).contains key = true
      · rw [if_pos hkey, if_pos hkey,
          hfirst v _ _ hv (hobject key (List.contains_iff_mem.mp hkey))]
        rfl
      · rw [if_neg hkey, if_neg hkey]
        rfl

theorem itemErrors_described {items : Schema} {arr : List Value} (harr : ∀ item ∈ arr, IsJson item)
    (ih : ∀ value pointer, IsJson value → validateObject rt value stored pointer =
      .ok (ValidateObject.validateObject rt value items pointer)) (i : Nat) :
    itemErrors rt arr i stored pointer = .ok ((arr.zipIdx i).flatMap fun (item, j) =>
      ValidateObject.validateObject rt item items
        (pointer ++ "[" ++ rt.numberToString j ++ "]")) := by
  induction arr generalizing i with
  | nil => rw [itemErrors, List.zipIdx_nil, List.flatMap_nil]
  | cons item rest ihrest =>
      obtain ⟨hitem, hrest⟩ := List.forall_mem_cons.mp harr
      rw [itemErrors, ih _ _ hitem, ok_bind, ihrest hrest, ok_bind, List.zipIdx_cons,
        List.flatMap_cons]
      rfl

/-- The keywords for objects. -/
theorem objectPart_described {type_ : Option TypeKeyword} {required : Option (List String)}
    {properties : Option (List (String × Schema))} {additionalProperties : Option Bool}
    {members : Value} (hvalue : IsJson value)
    (hobject : type_ = some (.one "object") → ∃ fields, value = .obj fields)
    (forObjects : required.isSome ∨ properties.isSome ∨ additionalProperties.isSome →
      type_ = some (.one "object")) (hmembers : DescribesMembers members properties)
    (ih : ∀ entries, properties = some entries → ∀ entry ∈ entries, ∀ stored value pointer,
      Describes stored entry.2 → IsJson value → validateObject rt value stored pointer =
        .ok (ValidateObject.validateObject rt value entry.2 pointer)) :
    (if ((type_.map typeValue).getD .undefined).strictEquals (.str "object") || members.truthy then
      do
        let missing ← requiredErrors rt (value.or (.obj []))
          ((required.map (fun names => Value.arr (names.map .str))).getD .undefined) pointer
        let children ←
          (if _h : members.truthy then
            childErrors rt (value.or (.obj [])) (entriesOf members) pointer
          else .ok [])
        .ok (missing ++ children ++ closedErrors (value.or (.obj [])) members
          ((additionalProperties.map Value.bool).getD .undefined) pointer)
      else .ok [] : Except JsError (List String)) =
      .ok (if type_ = some (.one "object") ∨ properties.isSome then
          ValidateObject.requiredErrors (value.or (.obj [])) (required.getD []) pointer ++
          propertyErrors rt (value.or (.obj [])) properties pointer ++
          (if additionalProperties = some false then
            unexpectedErrors (value.or (.obj [])) ((properties.getD []).map Prod.fst) pointer
          else [])
        else []) := by
  by_cases htype : type_ = some (.one "object")
  · obtain ⟨fields, rfl⟩ := hobject htype
    have hor : (Value.obj fields).or (.obj []) = .obj fields := rfl
    have hjson := (isJson_obj fields).mp hvalue
    have hchildren : (if _h : members.truthy then
        childErrors rt (.obj fields) (entriesOf members) pointer else .ok []) =
        .ok (propertyErrors rt (.obj fields) properties pointer) := by
      cases properties with
      | none =>
          rw [DescribesMembers] at hmembers
          rw [hmembers, propertyErrors]
          rfl
      | some children =>
          rw [DescribesMembers] at hmembers
          obtain ⟨stored, rfl, heach⟩ := hmembers
          have htruthy : (Value.obj stored).truthy = true := rfl
          rw [dif_pos htruthy, propertyErrors]
          refine childErrors_described heach (fun key hkey => ?_) (ih children rfl)
          exact hjson.2 _ ((get_iff_mem hjson.1 hkey _).mpr rfl)
    rw [if_pos (Bool.or_eq_true_iff.mpr (Or.inl ((isType_described _ _).mpr htype))),
      if_pos (Or.inl htype), hor, requiredErrors_described, ok_bind, hchildren, ok_bind,
      closedErrors_described hmembers]
  · have hnone : ¬ (required.isSome ∨ properties.isSome ∨ additionalProperties.isSome) :=
      fun h => htype (forObjects h)
    rw [not_or, not_or] at hnone
    obtain ⟨_, hproperties, _⟩ := hnone
    have habsent : members.truthy = false := by
      rw [none_of_not_isSome hproperties, DescribesMembers] at hmembers
      rw [hmembers]
      rfl
    rw [if_neg (not_or.mpr ⟨htype, hproperties⟩), habsent, Bool.or_false,
      if_neg (fun h => htype ((isType_described _ _).mp h))]

/-- The keywords for arrays. -/
theorem arrayPart_described {type_ : Option TypeKeyword} {items : Option Schema}
    {minItems maxItems : Option Number} {element : Value} (hvalue : IsJson value)
    (harray : type_ = some (.one "array") → ∃ elements, value = .arr elements)
    (forArrays : items.isSome ∨ minItems.isSome ∨ maxItems.isSome → type_ = some (.one "array"))
    (hitems : DescribesItems element items)
    (htruthy : items.isSome → element.truthy = true)
    (ih : ∀ schema, items = some schema → ∀ stored value pointer,
      Describes stored schema → IsJson value → validateObject rt value stored pointer =
        .ok (ValidateObject.validateObject rt value schema pointer)) :
    (if ((type_.map typeValue).getD .undefined).strictEquals (.str "array") || element.truthy then
      do
        let elements ←
          (if _h : element.truthy then itemErrors rt (elementsOf value) 0 element pointer else .ok [])
        .ok (sizeErrors rt (elementsOf value) ((minItems.map Value.num).getD .undefined)
          ((maxItems.map Value.num).getD .undefined) pointer ++ elements)
      else .ok [] : Except JsError (List String)) =
      .ok (if type_ = some (.one "array") ∨ items.isSome then
          ValidateObject.sizeErrors rt (elementsOf value) minItems maxItems pointer ++
            ValidateObject.itemErrors rt (elementsOf value) items pointer
        else []) := by
  by_cases htype : type_ = some (.one "array")
  · obtain ⟨elements, rfl⟩ := harray htype
    have hjson := (isJson_arr elements).mp hvalue
    have helements : (if _h : element.truthy then
        itemErrors rt elements 0 element pointer else .ok []) =
        .ok (ValidateObject.itemErrors rt elements items pointer) := by
      cases items with
      | none =>
          rw [DescribesItems] at hitems
          rw [hitems, ValidateObject.itemErrors]
          rfl
      | some schema =>
          rw [DescribesItems] at hitems
          rw [dif_pos (htruthy rfl), ValidateObject.itemErrors]
          exact itemErrors_described hjson (fun v p hv => ih schema rfl element v p hitems hv) 0
    rw [if_pos (Bool.or_eq_true_iff.mpr (Or.inl ((isType_described _ _).mpr htype))),
      if_pos (Or.inl htype), elementsOf, helements, ok_bind, sizeErrors_described]
  · have hnone : ¬ (items.isSome ∨ minItems.isSome ∨ maxItems.isSome) :=
      fun h => htype (forArrays h)
    rw [not_or, not_or] at hnone
    obtain ⟨hitem, _, _⟩ := hnone
    have habsent : element.truthy = false := by
      rw [none_of_not_isSome hitem, DescribesItems] at hitems
      rw [hitems]
      rfl
    rw [if_neg (not_or.mpr ⟨htype, hitem⟩), habsent, Bool.or_false,
      if_neg (fun h => htype ((isType_described _ _).mp h))]

theorem truthy_of_describes {schema : Schema} (h : Describes stored schema) :
    stored.truthy = true := by
  cases schema with
  | mk =>
      rw [Describes] at h
      obtain ⟨⟨fields, rfl⟩, _⟩ := h
      rfl

/-- On a JSON value that describes a schema of the fragment the code validates against the
schema. -/
theorem validateObject_of_describes {schema : Schema} (hschema : InFragment schema)
    (h : Describes stored schema) (value : Value) (pointer : String) (hvalue : IsJson value) :
    validateObject rt value stored pointer =
      .ok (ValidateObject.validateObject rt value schema pointer) := by
  induction hschema generalizing stored value pointer with
  | @intro const_ type_ required properties additionalProperties items minItems maxItems scalar
      oneType forObjects forArrays _ _ childrenIh elementsIh =>
      rw [Describes] at h
      obtain ⟨⟨fields, rfl⟩, hconst, henum, htype, hrequired, hproperties, hadditional, hitems, hmin,
        hmax⟩ := h
      have hprop : (Value.obj fields).prop "const" = .ok (const_.getD .undefined) :=
        congrArg Except.ok hconst
      have hnoenum : enumErrors rt value ((Value.obj fields).get "enum") pointer = .ok [] := by
        rw [henum]
        rfl
      have hone : ∀ name, type_ = some (.one name) →
          ValidateObject.typeErrors value type_ pointer = [] → HasType value name := by
        intro name hname hnil
        obtain ⟨other, hother, hhas⟩ := (typeErrors_eq_nil_iff hvalue oneType).mp hnil _ hname
        obtain rfl := List.mem_singleton.mp hother
        exact hhas
      have htruthy : items.isSome → ((Value.obj fields).get "items").truthy = true := by
        intro hsome
        obtain ⟨schema, rfl⟩ := Option.isSome_iff_exists.mp hsome
        rw [DescribesItems] at hitems
        exact truthy_of_describes hitems
      rw [validateObject, ValidateObject.validateObject, hprop, ok_bind, hnoenum, ok_bind, htype,
        typeErrors_described oneType, ok_bind, constErrors_described scalar]
      by_cases hmismatch : ValidateObject.typeErrors value type_ pointer = []
      · rw [if_neg (not_not.mpr hmismatch), if_neg (not_not.mpr hmismatch), hrequired, hadditional,
          hmin, hmax]
        dsimp only
        rw [objectPart_described hvalue (fun ht => object_of_hasType (hone _ ht hmismatch)) forObjects
            hproperties (fun entries he entry hentry _ value pointer hd hv =>
              childrenIh entries he entry hentry hd value pointer hv), ok_bind,
          arrayPart_described hvalue (fun ht => array_of_hasType (hone _ ht hmismatch)) forArrays
            hitems htruthy (fun schema hs _ value pointer hd hv =>
              elementsIh schema hs hd value pointer hv), ok_bind]
        rfl
      · rw [if_pos hmismatch, if_pos hmismatch]
        rfl

end Described

end Admissorium.ValidateObject.Stored
