import Admissorium.JavaScript.JsonOrder
import Admissorium.Signing

/-!
# Replaying a signature

A signature is verified by signing again. The canonical text is the JSON text of the value
with its keys in order, so it is the same for two values exactly when they are the same up
to the order of keys, and the digest tells them apart if it tells their texts apart.
-/
namespace Admissorium.Signing.Replay
set_option autoImplicit false

open JavaScript Json

/-! ## The canonical text -/

section Canonical
variable {rt : Runtime}

theorem canonicalItems_eq_map (items : List Value) :
    canonicalItems rt items = items.map (fun v => (canonicalJson rt v).getD "") := by
  induction items with
  | nil => rfl
  | cons v rest ih => rw [canonicalItems, ih, List.map_cons]

theorem canonicalFields_eq_map (fields : Fields) : canonicalFields rt fields =
    fields.map (fun field => (field.1, (canonicalJson rt field.2).getD "undefined")) := by
  induction fields with
  | nil => rfl
  | cons field rest ih =>
      obtain ⟨key, v⟩ := field
      rw [canonicalFields, ih, List.map_cons]

/-- The canonical text is the JSON text of the value with its keys in order. -/
theorem canonicalJson_eq {v : Value} (hv : IsJson v) :
    canonicalJson rt v = some (textOf rt (sortKeys v)) := by
  induction v using Value.induction with
  | undefined => exact hv.elim
  | null => rfl
  | bool b => rfl
  | num q => rfl
  | str s => rfl
  | arr items ih =>
      rw [isJson_arr] at hv
      have hitems : items.map (fun v => (canonicalJson rt v).getD "") =
          (items.map sortKeys).map (textOf rt) := by
        rw [List.map_map]
        refine List.map_congr_left (fun v hm => ?_)
        rw [ih v hm (hv v hm)]
        rfl
      rw [canonicalJson, canonicalItems_eq_map, hitems, sortKeys, sortItems_eq_map, textOf,
        stringify, elements_eq_map, Option.getD_some]
  | obj fields ih =>
      have hsorted := isJson_sortKeys hv
      rw [isJson_obj] at hv
      rw [sortKeys, sortFields_eq_map, isJson_obj] at hsorted
      have hfields : fields.map (fun field =>
          (field.1, (canonicalJson rt field.2).getD "undefined")) =
          (fields.map sortField).map (fun field => (field.1, textOf rt field.2)) := by
        rw [List.map_map]
        refine List.map_congr_left (fun field hm => ?_)
        rw [ih field hm (hv.2 field hm)]
        rfl
      have hsort : ((fields.map sortField).map (fun field => (field.1, textOf rt field.2))).insertionSort
          keyBefore = ((fields.map sortField).insertionSort keyLe).map
            (fun field => (field.1, textOf rt field.2)) :=
        (List.map_insertionSort keyLe keyBefore
          (fun field : String × Value => (field.1, textOf rt field.2)) (fields.map sortField)
          (fun _ _ _ _ => Iff.rfl)).symm
      rw [canonicalJson, canonicalFields_eq_map, hfields, hsort, List.map_map, sortKeys,
        sortFields_eq_map, textOf, stringify, Option.getD_some, members_eq_map hsorted.2]
      rfl

/-- Canonical texts are equal for values that are the same up to the order of keys, and for
no others. -/
theorem canonicalJson_inj (hrt : NumberTexts rt) {v w : Value} (hv : IsJson v) (hw : IsJson w) :
    canonicalJson rt v = canonicalJson rt w ↔ Same v w := by
  rw [canonicalJson_eq hv, canonicalJson_eq hw, same_iff_sortKeys hv hw,
    ← stringify_inj hrt (isJson_sortKeys hv) (isJson_sortKeys hw),
    stringify_eq_textOf (isJson_sortKeys hv), stringify_eq_textOf (isJson_sortKeys hw)]

/-- Every JSON value has a canonical text, and shares it with the values that are the same up
to the order of keys only. -/
theorem canonicalJson_canonical (hrt : NumberTexts rt) {v w : Value} (hv : IsJson v)
    (hw : IsJson w) : ∃ text other, canonicalJson rt v = some text ∧
      canonicalJson rt w = some other ∧ (text = other ↔ Same v w) := by
  refine ⟨_, _, canonicalJson_eq hv, canonicalJson_eq hw, ?_⟩
  rw [← canonicalJson_inj hrt hv hw, canonicalJson_eq hv, canonicalJson_eq hw, Option.some.injEq]

/-- Names that a plain object inherits, or that look like indices, are keys like any other. -/
def oddKeys : Value := .obj [("__proto__", .arr [.num 1, .str "a\"b"]), ("10", .null)]

def oddKeysReordered : Value := .obj [("10", .null), ("__proto__", .arr [.num 1, .str "a\"b"])]

theorem canonicalJson_canonical_oddKeys : ∃ text other,
    canonicalJson .counting oddKeys = some text ∧
      canonicalJson .counting oddKeysReordered = some other ∧
      (text = other ↔ Same oddKeys oddKeysReordered) := by
  refine canonicalJson_canonical numberTexts_counting ?_ ?_ <;>
    simp [oddKeys, oddKeysReordered, IsJson, FieldsJson, ItemsJson]

end Canonical

/-! ## The envelope of a signature -/

/-- The four fields a signature adds. -/
def envelope (rt : Runtime) (seed canonical_hash : String) : Fields :=
  [("canonical_hash", .str canonical_hash),
    ("signature_algorithm", .str localSigningAlgorithm),
    ("signer_key_ref", .str (localKeyRef rt seed)),
    ("signature", .str (rt.hmacSha256 seed canonical_hash))]

section Envelope
variable {rt : Runtime} {seed : Value} {text : String}

theorem signObject_eq (hseed : seedText seed = .ok text) {fields : Fields} {canonical : String}
    (hc : canonicalJson rt (.obj (unsigned fields)) = some canonical) :
    signObject rt fields seed =
      .ok (.obj (unsigned fields ++ envelope rt text (rt.sha256 canonical))) := by
  rw [signObject, objectDigest, hc, hseed]
  rfl

theorem unsigned_append_envelope (fields : Fields) (hash : String) :
    unsigned (unsigned fields ++ envelope rt text hash) = unsigned fields := by
  have hnone : unsigned (envelope rt text hash) = [] := by simp [unsigned, envelope, signatureFields]
  have hsplit : unsigned (unsigned fields ++ envelope rt text hash) =
      unsigned (unsigned fields) ++ unsigned (envelope rt text hash) := List.filter_append _ _
  have htwice : unsigned (unsigned fields) = unsigned fields := by
    unfold unsigned
    rw [List.filter_filter, List.filter_congr]
    simp
  rw [hsplit, htwice, hnone, List.append_nil]

theorem get_append_envelope (fields : Fields) (hash : String) {key : String}
    (hk : key ∈ signatureFields) : (Value.obj (unsigned fields ++ envelope rt text hash)).get key =
      (Value.obj (envelope rt text hash)).get key := by
  rw [Value.get, Value.get, List.lookup_append, lookup_unsigned_of_mem fields hk, Option.none_or]

/-- Verification compares the four fields with those of a new signature. -/
theorem verifySignedObject_iff (hseed : seedText seed = .ok text) {fields : Fields}
    {canonical : String} (hc : canonicalJson rt (.obj (unsigned fields)) = some canonical) :
    verifySignedObject rt fields seed = .ok true ↔
      (Value.obj fields).get "signature_algorithm" = .str localSigningAlgorithm ∧
      (Value.obj fields).get "signer_key_ref" = .str (localKeyRef rt text) ∧
      (Value.obj fields).get "canonical_hash" = .str (rt.sha256 canonical) ∧
      (Value.obj fields).get "signature" = .str (rt.hmacSha256 text (rt.sha256 canonical)) := by
  have halgorithm : (Value.obj (unsigned fields ++
      envelope rt text (rt.sha256 canonical))).get "signature_algorithm" =
        .str localSigningAlgorithm := get_append_envelope fields _ (by decide)
  have hkey : (Value.obj (unsigned fields ++
      envelope rt text (rt.sha256 canonical))).get "signer_key_ref" =
        .str (localKeyRef rt text) := get_append_envelope fields _ (by decide)
  have hhash : (Value.obj (unsigned fields ++
      envelope rt text (rt.sha256 canonical))).get "canonical_hash" =
        .str (rt.sha256 canonical) := get_append_envelope fields _ (by decide)
  have hsignature : (Value.obj (unsigned fields ++
      envelope rt text (rt.sha256 canonical))).get "signature" =
        .str (rt.hmacSha256 text (rt.sha256 canonical)) := get_append_envelope fields _ (by decide)
  rw [verifySignedObject, signObject_eq hseed hc]
  change Except.ok _ = _ ↔ _
  rw [Except.ok.injEq, halgorithm, hkey, hhash, hsignature]
  simp only [Bool.and_eq_true, Value.strictEquals_str, and_assoc]

/-- Signing an object that is signed already changes nothing, and the signature verifies. -/
theorem signObject_signed (hseed : seedText seed = .ok text) {fields : Fields} {canonical : String}
    (hc : canonicalJson rt (.obj (unsigned fields)) = some canonical) :
    signObject rt (unsigned fields ++ envelope rt text (rt.sha256 canonical)) seed =
        .ok (.obj (unsigned fields ++ envelope rt text (rt.sha256 canonical))) ∧
      verifySignedObject rt (unsigned fields ++ envelope rt text (rt.sha256 canonical)) seed =
        .ok true := by
  have hstripped : canonicalJson rt (.obj (unsigned (unsigned fields ++
      envelope rt text (rt.sha256 canonical)))) = some canonical := by
    rw [unsigned_append_envelope, hc]
  constructor
  · rw [signObject_eq hseed hstripped, unsigned_append_envelope]
  · rw [verifySignedObject_iff hseed hstripped]
    exact ⟨get_append_envelope fields _ (by decide), get_append_envelope fields _ (by decide),
      get_append_envelope fields _ (by decide), get_append_envelope fields _ (by decide)⟩

/-- What has been signed verifies. -/
theorem verify_of_signObject {fields own : Fields} (h : signObject rt fields seed = .ok (.obj own)) :
    verifySignedObject rt own seed = .ok true := by
  obtain ⟨_, _, hrest⟩ := bind_eq_ok.mp h
  obtain ⟨text, hseed, _⟩ := bind_eq_ok.mp hrest
  have hc : ∃ canonical, canonicalJson rt (.obj (unsigned fields)) = some canonical := by
    rw [canonicalJson]
    exact ⟨_, rfl⟩
  obtain ⟨canonical, hc⟩ := hc
  rw [signObject_eq hseed hc, Except.ok.injEq, Value.obj.injEq] at h
  rw [← h]
  exact (signObject_signed hseed hc).2

end Envelope

/-! ## Every change is detected -/

theorem isJson_unsigned {fields : Fields} (h : IsJson (.obj fields)) :
    IsJson (.obj (unsigned fields)) := by
  rw [isJson_obj] at h ⊢
  have hsub : (unsigned fields).Sublist fields := List.filter_sublist
  exact ⟨h.1.sublist (hsub.map Prod.fst), fun field hm => h.2 field (hsub.subset hm)⟩

/-- The digest tells the canonical texts of two objects apart. -/
def DigestSeparates (rt : Runtime) (fields others : Fields) : Prop :=
  ∀ a b, canonicalJson rt (.obj fields) = some a → canonicalJson rt (.obj others) = some b →
    rt.sha256 a = rt.sha256 b → a = b

theorem digestSeparates_ascii (fields others : Fields) : DigestSeparates .ascii fields others :=
  fun _ _ _ _ h => (String.append_right_inj "sha256:").mp h

/-- A signature verifies, signing twice is signing once, and of the objects that carry the
same four fields exactly those verify that are otherwise the same object. -/
theorem signing_detects_changes {rt : Runtime} (hrt : NumberTexts rt) {seed : Value}
    {text : String} (hseed : seedText seed = .ok text) {fields : Fields}
    (hfields : IsJson (.obj fields)) :
    ∃ signed, signObject rt fields seed = .ok (.obj signed) ∧
      verifySignedObject rt signed seed = .ok true ∧
      signObject rt signed seed = .ok (.obj signed) ∧
      ∀ others, IsJson (.obj others) →
        (∀ key ∈ signatureFields, (Value.obj others).get key = (Value.obj signed).get key) →
        DigestSeparates rt (unsigned others) (unsigned fields) →
        (verifySignedObject rt others seed = .ok true ↔
          Same (.obj (unsigned others)) (.obj (unsigned fields))) := by
  have hstripped := isJson_unsigned hfields
  have hc : canonicalJson rt (.obj (unsigned fields)) =
      some (textOf rt (sortKeys (.obj (unsigned fields)))) := canonicalJson_eq hstripped
  obtain ⟨hagain, hverify⟩ := signObject_signed hseed hc
  refine ⟨_, signObject_eq hseed hc, hverify, hagain, ?_⟩
  intro others hothers hsame hsha
  have hostripped := isJson_unsigned hothers
  have hco : canonicalJson rt (.obj (unsigned others)) =
      some (textOf rt (sortKeys (.obj (unsigned others)))) := canonicalJson_eq hostripped
  have hhash : (Value.obj others).get "canonical_hash" =
      .str (rt.sha256 (textOf rt (sortKeys (.obj (unsigned fields))))) :=
    (hsame _ (by decide)).trans (get_append_envelope fields _ (by decide))
  have hsignature : (Value.obj others).get "signature" =
      .str (rt.hmacSha256 text (rt.sha256 (textOf rt (sortKeys (.obj (unsigned fields)))))) :=
    (hsame _ (by decide)).trans (get_append_envelope fields _ (by decide))
  rw [← canonicalJson_inj hrt hostripped hstripped, verifySignedObject_iff hseed hco, hhash,
    hsignature, hco, hc, Option.some.injEq]
  constructor
  · intro h
    obtain ⟨_, _, hsum, _⟩ := h
    exact hsha _ _ hco hc (Value.str.inj hsum).symm
  · intro h
    rw [h]
    exact ⟨(hsame _ (by decide)).trans (get_append_envelope fields _ (by decide)),
      (hsame _ (by decide)).trans (get_append_envelope fields _ (by decide)), rfl, rfl⟩

def greenObject : Fields := [("state", .str "GREEN")]

/-- Another state under the signature of the green one. -/
def redObject : Fields :=
  unsigned [("state", .str "RED")] ++ envelope .counting defaultLocalSigningSeed
    (Runtime.counting.sha256 (textOf .counting (sortKeys (.obj greenObject))))

theorem redObject_not_verified :
    verifySignedObject .counting redObject .undefined ≠ .ok true := by
  have hjson : IsJson (.obj greenObject) := (isJson_obj _).mpr (by simp [greenObject, IsJson])
  have hred : IsJson (.obj redObject) :=
    (isJson_obj _).mpr (by simp [redObject, unsigned, signatureFields, envelope, IsJson])
  have hseed : seedText .undefined = .ok defaultLocalSigningSeed := rfl
  have hseparates : DigestSeparates .counting (unsigned redObject) (unsigned greenObject) :=
    fun _ _ _ _ h => (String.append_right_inj _).mp h
  have hunsigned : canonicalJson .counting (.obj (unsigned greenObject)) =
      some (textOf .counting (sortKeys (.obj greenObject))) := canonicalJson_eq hjson
  obtain ⟨signed, hsigned, _, _, hothers⟩ :=
    signing_detects_changes numberTexts_counting hseed hjson
  have hsame : ∀ key ∈ signatureFields,
      (Value.obj redObject).get key = (Value.obj signed).get key := by
    intro key hk
    have hexplicit := hsigned.symm.trans (signObject_eq hseed hunsigned)
    rw [Except.ok.injEq] at hexplicit
    rw [hexplicit, redObject, get_append_envelope _ _ hk, get_append_envelope _ _ hk]
  rw [ne_eq, hothers redObject hred hsame hseparates]
  simp [redObject, greenObject, envelope, unsigned, signatureFields, Same, SameFields]

end Admissorium.Signing.Replay
