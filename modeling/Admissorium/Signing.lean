import Admissorium.JavaScript.Json
import Mathlib.Data.List.Lex
import Mathlib.Data.List.Sort

/-!
# Deterministic local signing

`src/signing`: a canonical JSON text, its digest, and a signature over the digest that
anyone who knows the seed can replay. Objects are signed as their list of fields.
-/
namespace Admissorium.Signing
set_option autoImplicit false

open JavaScript

/-- Keys are sorted by their code units. -/
def keyBefore (a b : String × String) : Prop := Text.units a.1 ≤ Text.units b.1

instance : DecidableRel keyBefore :=
  fun a b => inferInstanceAs (Decidable (Text.units a.1 ≤ Text.units b.1))

mutual
/-- `none` stands for `undefined`, which an array leaves blank and an object spells out. -/
def canonicalJson (rt : Runtime) : Value → Option String
  | .arr items => some ("[" ++ ",".intercalate (canonicalItems rt items) ++ "]")
  | .obj fields =>
      some ("\x7b" ++ ",".intercalate (((canonicalFields rt fields).insertionSort keyBefore).map
        (fun field => Json.quote field.1 ++ ":" ++ field.2)) ++ "\x7d")
  | .undefined => Json.stringify rt .undefined
  | .null => Json.stringify rt .null
  | .bool b => Json.stringify rt (.bool b)
  | .num q => Json.stringify rt (.num q)
  | .str s => Json.stringify rt (.str s)

def canonicalItems (rt : Runtime) : List Value → List String
  | [] => []
  | v :: rest => (canonicalJson rt v).getD "" :: canonicalItems rt rest

def canonicalFields (rt : Runtime) : List (String × Value) → List (String × String)
  | [] => []
  | (key, v) :: rest => (key, (canonicalJson rt v).getD "undefined") :: canonicalFields rt rest
end

def localSigningAlgorithm : String := "HMAC-SHA256-LOCAL-DETERMINISTIC-STUB"

def defaultLocalSigningSeed : String :=
  "ADMISSORIUM_LOCAL_DETERMINISTIC_TEST_KEY_ONLY_NOT_PRODUCTION"

/-- The seed in force; `node:crypto` takes no other value than text. -/
def seedText : Value → Except JsError String
  | .undefined => .ok defaultLocalSigningSeed
  | .str seed => .ok seed
  | _ => .error .typeError

theorem seedText_undefined : seedText .undefined = .ok defaultLocalSigningSeed := rfl

def localKeyRef (rt : Runtime) (seed : String) : String :=
  "local-test-key:" ++ String.ofList ((rt.sha256 seed).toList.take 24)

def objectDigest (rt : Runtime) (object : Value) : Except JsError String :=
  match canonicalJson rt object with
  | some text => .ok (rt.sha256 text)
  | none => .error .typeError

def signatureFields : List String :=
  ["signature", "signature_algorithm", "signer_key_ref", "canonical_hash"]

/-- The object without the fields a signature adds. -/
def unsigned (fields : Fields) : Fields :=
  fields.filter (fun field => field.1 ∉ signatureFields)

def signObject (rt : Runtime) (fields : Fields) (seed : Value) : Except JsError Value := do
  let canonical_hash ← objectDigest rt (.obj (unsigned fields))
  let seed ← seedText seed
  return .obj (unsigned fields ++
    [("canonical_hash", .str canonical_hash),
      ("signature_algorithm", .str localSigningAlgorithm),
      ("signer_key_ref", .str (localKeyRef rt seed)),
      ("signature", .str (rt.hmacSha256 seed canonical_hash))])

def verifySignedObject (rt : Runtime) (signed : Fields) (seed : Value) : Except JsError Bool := do
  let expected ← signObject rt signed seed
  let signed := Value.obj signed
  return (signed.get "signature_algorithm").strictEquals (expected.get "signature_algorithm") &&
    (signed.get "signer_key_ref").strictEquals (expected.get "signer_key_ref") &&
    (signed.get "canonical_hash").strictEquals (expected.get "canonical_hash") &&
    (signed.get "signature").strictEquals (expected.get "signature")

/-! ## What signing keeps -/

theorem lookup_append_of_not_mem {before after : Fields} {key : String}
    (h : ∀ field ∈ after, field.1 ≠ key) : (before ++ after).lookup key = before.lookup key := by
  rw [List.lookup_append]
  have hnone : after.lookup key = none := by
    rw [List.lookup_eq_none_iff]
    intro field hf
    simpa using (h field hf).symm
  rw [hnone, Option.or_none]

theorem lookup_unsigned (fields : Fields) {key : String} (hk : key ∉ signatureFields) :
    (unsigned fields).lookup key = fields.lookup key := by
  induction fields with
  | nil => rfl
  | cons field fields ih =>
      obtain ⟨name, v⟩ := field
      rw [lookup_cons_ite, ← ih]
      by_cases hname : name ∈ signatureFields
      · have hne : key ≠ name := fun he => hk (he ▸ hname)
        simp [unsigned, hname, hne]
      · have hkeep : unsigned ((name, v) :: fields) = (name, v) :: unsigned fields := by
          simp [unsigned, hname]
        rw [hkeep, lookup_cons_ite]

theorem lookup_unsigned_of_mem (fields : Fields) {key : String} (hk : key ∈ signatureFields) :
    (unsigned fields).lookup key = none := by
  rw [List.lookup_eq_none_iff]
  intro field hf
  have hout := of_decide_eq_true (List.mem_filter.mp hf).2
  have hne : key ≠ field.1 := by
    rintro rfl
    exact hout hk
  exact bne_iff_ne.mpr hne

theorem exists_objectDigest (rt : Runtime) (fields : Fields) :
    ∃ digest, objectDigest rt (.obj fields) = .ok digest := by
  rw [objectDigest, canonicalJson]
  exact ⟨_, rfl⟩

/-- An object is signed under any seed that is a text, and keeps its other fields. -/
theorem exists_signObject (rt : Runtime) (fields : Fields) {seed : Value} {text : String}
    (h : seedText seed = .ok text) :
    ∃ signed, signObject rt fields seed = .ok (.obj signed) ∧
      ∀ key, key ∉ signatureFields → (Value.obj signed).get key = (Value.obj fields).get key := by
  obtain ⟨digest, hd⟩ := exists_objectDigest rt (unsigned fields)
  rw [signObject, hd, h]
  refine ⟨_, rfl, ?_⟩
  intro key hk
  rw [Value.get, Value.get, lookup_append_of_not_mem, lookup_unsigned fields hk]
  intro field hf hkey
  simp only [List.mem_cons, List.not_mem_nil, or_false] at hf
  refine hk (hkey ▸ ?_)
  rcases hf with rfl | rfl | rfl | rfl <;> simp [signatureFields]

theorem isObject_of_signObject {rt : Runtime} {fields : Fields} {seed signed : Value}
    (h : signObject rt fields seed = .ok signed) : ∃ own, signed = .obj own := by
  obtain ⟨_, _, h⟩ := bind_eq_ok.mp h
  obtain ⟨_, _, h⟩ := bind_eq_ok.mp h
  cases h
  exact ⟨_, rfl⟩

/-- A signed object has the fields of the unsigned one. -/
theorem get_of_signObject {rt : Runtime} {fields : Fields} {seed signed : Value}
    (h : signObject rt fields seed = .ok signed) {key : String} (hk : key ∉ signatureFields) :
    signed.get key = (Value.obj fields).get key := by
  obtain ⟨_, _, h⟩ := bind_eq_ok.mp h
  obtain ⟨text, htext, _⟩ := bind_eq_ok.mp h
  obtain ⟨other, hother, hkeep⟩ := exists_signObject rt fields htext
  obtain rfl := Except.ok.inj (hother.symm.trans (bind_eq_ok.mpr ⟨_, ‹_›, h⟩))
  exact hkeep key hk

/-- The hash a signature is over is a text. -/
theorem canonical_hash_of_signObject {rt : Runtime} {fields : Fields} {seed signed : Value}
    (h : signObject rt fields seed = .ok signed) :
    ∃ hash, signed.get "canonical_hash" = .str hash := by
  obtain ⟨hash, _, h⟩ := bind_eq_ok.mp h
  obtain ⟨_, _, h⟩ := bind_eq_ok.mp h
  cases h
  refine ⟨hash, ?_⟩
  rw [Value.get, List.lookup_append, lookup_unsigned_of_mem fields (by decide)]
  rfl

end Admissorium.Signing
