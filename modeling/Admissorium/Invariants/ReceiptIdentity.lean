import Admissorium.JavaScript.Buckets
import Admissorium.JavaScript.JsonListed
import Admissorium.Reports

/-!
# Receipt identity

`invariants/receipt-identity` groups receipt records by id, and the records of an id by the
digest of their bodies. The body is serialised with the list of its own keys, which
`JSON.stringify` also applies to every object inside it.
-/
namespace Admissorium.Invariants.ReceiptIdentity
set_option autoImplicit false

open JavaScript Json Reports

structure ReceiptRecord where
  repo : String
  path : String
  receipt_id : String
  body : Value

/-- The own keys of a value; those of a text or an array are its indices. -/
def keysOf : Value → List String
  | .str s => (List.range (Text.length s)).map toString
  | .arr items => (List.range items.length).map toString
  | .obj fields => fields.map Prod.fst
  | _ => []

/-- `Object.keys(value)`. -/
def objectKeys : Value → Except JsError (List String)
  | .undefined => .error .typeError
  | .null => .error .typeError
  | v => .ok (keysOf v)

/-- `keys.sort()`. -/
def sortTexts (keys : List String) : List String := keys.insertionSort textLe

/-- A body without a text cannot be hashed. -/
def canonicalize (rt : Runtime) (value : Value) : Except JsError String := do
  let keys ← objectKeys value
  match stringifyListed rt value (sortTexts keys) with
  | some text => return text
  | none => .error .typeError

def digestOf (rt : Runtime) (receipt : ReceiptRecord) : Except JsError String := do
  return rt.sha256 (← canonicalize rt receipt.body)

def digestsOf (rt : Runtime) (bucket : List ReceiptRecord) :
    Except JsError (List (String × List ReceiptRecord)) :=
  bucket.foldlM (fun digests receipt => do
    return Buckets.add digests (← digestOf rt receipt) receipt) []

def variantOf (variant : String × List ReceiptRecord) : Value :=
  .obj [("digest", .str variant.1),
    ("records", .arr (variant.2.map (fun record => .str (record.repo ++ ":" ++ record.path))))]

def collisionFinding (receiptId : String) (digests : List (String × List ReceiptRecord)) :
    Finding where
  finding_id := "RED-RECEIPT-IDENTITY-COLLISION"
  severity := .red
  repo := "Verifrax/VERIFRAX"
  surface := "receipt identity surfaces"
  invariant := "one_receipt_id_one_canonical_body"
  expected := .str "same receipt_id implies identical canonical receipt body and digest"
  observed := .obj [("receipt_id", .str receiptId), ("variants", .arr (digests.map variantOf))]
  source_of_truth := "CORPIFORM receipt of record + VERIFRAX evidence root"
  autofix_allowed := false
  recommended_action :=
    "Quarantine divergent copies; accept one canonical receipt through governed review."

/-- What one bucket of records gives rise to. -/
def collisionsOf (rt : Runtime) (entry : String × List ReceiptRecord) :
    Except JsError (List Finding) := do
  let digests ← digestsOf rt entry.2
  return if digests.length > 1 then [collisionFinding entry.1 digests] else []

def receiptIdentityInvariant (rt : Runtime) (receipts : List ReceiptRecord) :
    Except JsError (List Finding) := do
  let byId := Buckets.collect ReceiptRecord.receipt_id receipts
  return (← byId.mapM (collisionsOf rt)).flatten

/-! ## What a digest is taken of -/

/-- The part of a body its own keys show. -/
def shown (body : Value) : Value := listed (sortTexts (keysOf body)) body

theorem nodup_indices (n : Nat) : ((List.range n).map (toString : Nat → String)).Nodup :=
  List.Nodup.map (fun _ _ h => natText_injective (congrArg String.toList h)) List.nodup_range

theorem nodup_keysOf {v : Value} (h : IsJson v) : (keysOf v).Nodup := by
  cases v with
  | str s => exact nodup_indices _
  | arr items => exact nodup_indices _
  | obj fields => exact ((isJson_obj _).mp h).1
  | _ => exact List.nodup_nil

theorem isJson_shown {v : Value} (h : IsJson v) : IsJson (shown v) := by
  refine isJson_listed ?_ h
  exact (List.perm_insertionSort _ (keysOf v)).nodup_iff.mpr (nodup_keysOf h)

theorem keysOf_perm_of_same {v w : Value} (hv : IsJson v) (hw : IsJson w) (h : Same v w) :
    (keysOf v).Perm (keysOf w) := by
  cases v with
  | arr items =>
      cases w with
      | arr others =>
          rw [Same, sameItems_iff] at h
          rw [keysOf, keysOf, h.length_eq]
      | _ => simp [Same] at h
  | obj fields =>
      cases w with
      | obj others => exact keys_perm_of_same hv hw h
      | _ => simp [Same] at h
  | _ => cases w <;> simp_all [Same]

/-- Bodies that are the same up to the order of keys show the same. -/
theorem shown_eq_of_same {v w : Value} (hv : IsJson v) (hw : IsJson w) (h : Same v w) :
    shown v = shown w := by
  have hkeys : sortTexts (keysOf v) = sortTexts (keysOf w) :=
    insertionSort_eq_of_perm textLe (fun _ _ _ _ hxy hyx => textLe_antisymm hxy hyx)
      (keysOf_perm_of_same hv hw h)
  rw [shown, shown, hkeys]
  exact listed_eq_of_same _ hv hw h

section Digests
variable {rt : Runtime}

theorem canonicalize_eq {v : Value} (hv : IsJson v) (hne : v ≠ .null) :
    canonicalize rt v = .ok (textOf rt (shown v)) := by
  have hkeys : objectKeys v = .ok (keysOf v) := by
    cases v with
    | undefined => exact hv.elim
    | null => exact absurd rfl hne
    | _ => rfl
  have htext : stringifyListed rt v (sortTexts (keysOf v)) = some (textOf rt (shown v)) :=
    stringify_eq_textOf (isJson_shown hv)
  rw [canonicalize, bind_eq_ok]
  refine ⟨_, hkeys, ?_⟩
  rw [htext]
  rfl

theorem canonicalize_null (rt : Runtime) (text : String) : canonicalize rt .null ≠ .ok text := by
  intro h
  cases h

/-- The digest of a body that is not `null`. -/
def bodyDigest (rt : Runtime) (receipt : ReceiptRecord) : String :=
  rt.sha256 (textOf rt (shown receipt.body))

theorem digestOf_eq {receipt : ReceiptRecord} (hjson : IsJson receipt.body)
    (hne : receipt.body ≠ .null) : digestOf rt receipt = .ok (bodyDigest rt receipt) := by
  rw [digestOf, canonicalize_eq hjson hne]
  rfl

theorem foldlM_add_eq {bucket : List ReceiptRecord}
    (h : ∀ receipt ∈ bucket, digestOf rt receipt = .ok (bodyDigest rt receipt))
    (digests : List (String × List ReceiptRecord)) :
    bucket.foldlM (fun digests receipt => do
      return Buckets.add digests (← digestOf rt receipt) receipt) digests =
    .ok (bucket.foldl (fun map item => Buckets.add map (bodyDigest rt item) item) digests) := by
  induction bucket generalizing digests with
  | nil => rfl
  | cons receipt rest ih =>
      rw [List.forall_mem_cons] at h
      rw [List.foldlM_cons, h.1, List.foldl_cons, ← ih h.2]
      rfl

theorem digestsOf_eq {bucket : List ReceiptRecord}
    (h : ∀ receipt ∈ bucket, digestOf rt receipt = .ok (bodyDigest rt receipt)) :
    digestsOf rt bucket = .ok (Buckets.collect (bodyDigest rt) bucket) :=
  foldlM_add_eq h []

/-- A bucket is read to its end only if every body in it has a digest. -/
theorem exists_digestOf_of_foldlM {bucket : List ReceiptRecord}
    {digests result : List (String × List ReceiptRecord)}
    (h : bucket.foldlM (fun digests receipt => do
      return Buckets.add digests (← digestOf rt receipt) receipt) digests = .ok result) :
    ∀ receipt ∈ bucket, ∃ digest, digestOf rt receipt = .ok digest := by
  induction bucket generalizing digests with
  | nil => simp
  | cons receipt rest ih =>
      rw [List.foldlM_cons, bind_eq_ok] at h
      obtain ⟨_, hadd, hrest⟩ := h
      obtain ⟨digest, hd, _⟩ := bind_eq_ok.mp hadd
      exact List.forall_mem_cons.mpr ⟨⟨digest, hd⟩, ih hrest⟩

end Digests

/-! ## One body for one id -/

/-- The findings report a collision of this id. -/
def Reports (findings : List Finding) (id : String) : Prop :=
  ∃ finding ∈ findings, finding.finding_id = "RED-RECEIPT-IDENTITY-COLLISION" ∧
    finding.observed.get "receipt_id" = .str id

/-- Two records of this id have bodies that are not the same. -/
def Collides (receipts : List ReceiptRecord) (id : String) : Prop :=
  ∃ a ∈ receipts, ∃ b ∈ receipts, a.receipt_id = id ∧ b.receipt_id = id ∧ ¬ Same a.body b.body

/-- The invariant can be checked, and reports an id exactly when its bodies differ. -/
def OneCanonicalBody (rt : Runtime) (receipts : List ReceiptRecord) : Prop :=
  ∃ findings, receiptIdentityInvariant rt receipts = .ok findings ∧
    ∀ id, Reports findings id ↔ Collides receipts id

/-- Two records of this id have bodies whose own keys show a difference. -/
def ShowsCollision (receipts : List ReceiptRecord) (id : String) : Prop :=
  ∃ a ∈ receipts, ∃ b ∈ receipts, a.receipt_id = id ∧ b.receipt_id = id ∧
    shown a.body ≠ shown b.body

/-- The digest tells the texts apart that are hashed for these records. -/
def DigestSeparates (rt : Runtime) (receipts : List ReceiptRecord) : Prop :=
  ∀ a ∈ receipts, ∀ b ∈ receipts, ∀ s t, canonicalize rt a.body = .ok s →
    canonicalize rt b.body = .ok t → rt.sha256 s = rt.sha256 t → s = t

section Identity
variable {rt : Runtime} {receipts : List ReceiptRecord}

/-- What the invariant finds in one bucket. -/
def bucketFindings (rt : Runtime) (entry : String × List ReceiptRecord) : List Finding :=
  if (Buckets.collect (bodyDigest rt) entry.2).length > 1 then
    [collisionFinding entry.1 (Buckets.collect (bodyDigest rt) entry.2)] else []

/-- Without a `null` body every bucket is read to its end. -/
theorem receiptIdentityInvariant_eq (hjson : ∀ r ∈ receipts, IsJson r.body)
    (hnull : ∀ r ∈ receipts, r.body ≠ .null) : receiptIdentityInvariant rt receipts =
      .ok ((Buckets.collect ReceiptRecord.receipt_id receipts).map (bucketFindings rt)).flatten := by
  have hbuckets : ∀ entry ∈ Buckets.collect ReceiptRecord.receipt_id receipts,
      collisionsOf rt entry = .ok (bucketFindings rt entry) := by
    intro entry hentry
    have hmembers := Buckets.mem_collect _ hentry
    have hdigest : ∀ r ∈ entry.2, digestOf rt r = .ok (bodyDigest rt r) := by
      intro r hr
      rw [hmembers] at hr
      have hmem := (List.mem_filter.mp hr).1
      exact digestOf_eq (hjson r hmem) (hnull r hmem)
    rw [collisionsOf, digestsOf_eq hdigest]
    rfl
  rw [receiptIdentityInvariant, mapM_eq_ok_map hbuckets]
  rfl

/-- A `null` body stops the invariant. -/
theorem not_null_of_ok {findings : List Finding}
    (h : receiptIdentityInvariant rt receipts = .ok findings) : ∀ r ∈ receipts, r.body ≠ .null := by
  intro r hr hnull
  obtain ⟨lists, hlists, _⟩ := bind_eq_ok.mp h
  have hkey := (Buckets.mem_keys_collect ReceiptRecord.receipt_id receipts r.receipt_id).mpr
    ⟨r, hr, rfl⟩
  obtain ⟨entry, hentry, hid⟩ := List.mem_map.mp hkey
  obtain ⟨_, _, hcollisions⟩ := exists_of_mem_of_mapM hlists hentry
  obtain ⟨digests, hdigests, _⟩ := bind_eq_ok.mp hcollisions
  have hmember : r ∈ entry.2 := by
    rw [Buckets.mem_collect _ hentry, List.mem_filter]
    exact ⟨hr, decide_eq_true hid.symm⟩
  obtain ⟨digest, hdigest⟩ := exists_digestOf_of_foldlM hdigests r hmember
  obtain ⟨text, htext, _⟩ := bind_eq_ok.mp hdigest
  rw [hnull] at htext
  exact canonicalize_null rt text htext

theorem bodyDigest_ne_iff (hrt : NumberTexts rt) (hjson : ∀ r ∈ receipts, IsJson r.body)
    (hnull : ∀ r ∈ receipts, r.body ≠ .null) (hsha : DigestSeparates rt receipts)
    {a b : ReceiptRecord} (ha : a ∈ receipts) (hb : b ∈ receipts) :
    bodyDigest rt a ≠ bodyDigest rt b ↔ shown a.body ≠ shown b.body := by
  have hca : canonicalize rt a.body = .ok (textOf rt (shown a.body)) :=
    canonicalize_eq (hjson a ha) (hnull a ha)
  have hcb : canonicalize rt b.body = .ok (textOf rt (shown b.body)) :=
    canonicalize_eq (hjson b hb) (hnull b hb)
  rw [not_iff_not]
  constructor
  · intro h
    have htext := hsha a ha b hb _ _ hca hcb h
    have hsa := isJson_shown (hjson a ha)
    have hsb := isJson_shown (hjson b hb)
    rw [← stringify_inj hrt hsa hsb, stringify_eq_textOf hsa, stringify_eq_textOf hsb, htext]
  · intro h
    rw [bodyDigest, bodyDigest, h]

theorem reports_bucketFindings_iff (entry : String × List ReceiptRecord) (id : String) :
    Reports (bucketFindings rt entry) id ↔
      entry.1 = id ∧ ∃ a ∈ entry.2, ∃ b ∈ entry.2, bodyDigest rt a ≠ bodyDigest rt b := by
  rw [← Buckets.one_lt_length_collect_iff, bucketFindings]
  split
  · rename_i h
    simp [Reports, collisionFinding, Value.get, h]
  · rename_i h
    simp [Reports, h]

/-- Without a `null` body, an id is reported exactly when its bodies show a difference. -/
theorem reports_iff (hrt : NumberTexts rt) (hjson : ∀ r ∈ receipts, IsJson r.body)
    (hnull : ∀ r ∈ receipts, r.body ≠ .null) (hsha : DigestSeparates rt receipts) (id : String) :
    Reports ((Buckets.collect ReceiptRecord.receipt_id receipts).map (bucketFindings rt)).flatten id ↔
      ShowsCollision receipts id := by
  constructor
  · rintro ⟨finding, hfinding, hreport⟩
    obtain ⟨_, hlist, hmem⟩ := List.mem_flatten.mp hfinding
    obtain ⟨entry, hentry, rfl⟩ := List.mem_map.mp hlist
    obtain ⟨hid, a, ha, b, hb, hne⟩ :=
      (reports_bucketFindings_iff entry id).mp ⟨finding, hmem, hreport⟩
    rw [Buckets.mem_collect _ hentry, List.mem_filter, decide_eq_true_eq, hid] at ha hb
    exact ⟨a, ha.1, b, hb.1, ha.2, hb.2,
      (bodyDigest_ne_iff hrt hjson hnull hsha ha.1 hb.1).mp hne⟩
  · rintro ⟨a, ha, b, hb, hida, hidb, hne⟩
    obtain ⟨entry, hentry, hid⟩ := List.mem_map.mp
      ((Buckets.mem_keys_collect ReceiptRecord.receipt_id receipts id).mpr ⟨a, ha, hida⟩)
    have hmembers := Buckets.mem_collect _ hentry
    have hain : a ∈ entry.2 := by
      rw [hmembers, List.mem_filter, decide_eq_true_eq, hid]
      exact ⟨ha, hida⟩
    have hbin : b ∈ entry.2 := by
      rw [hmembers, List.mem_filter, decide_eq_true_eq, hid]
      exact ⟨hb, hidb⟩
    have hreport : Reports (bucketFindings rt entry) id :=
      (reports_bucketFindings_iff entry id).mpr ⟨hid, a, hain, b, hbin,
        (bodyDigest_ne_iff hrt hjson hnull hsha ha hb).mpr hne⟩
    obtain ⟨finding, hmem, hfinding⟩ := hreport
    exact ⟨finding, List.mem_flatten.mpr ⟨_, List.mem_map.mpr ⟨entry, hentry, rfl⟩, hmem⟩, hfinding⟩

theorem collides_of_showsCollision (hjson : ∀ r ∈ receipts, IsJson r.body) {id : String}
    (h : ShowsCollision receipts id) : Collides receipts id := by
  obtain ⟨a, ha, b, hb, hida, hidb, hne⟩ := h
  exact ⟨a, ha, b, hb, hida, hidb, fun hsame =>
    hne (shown_eq_of_same (hjson a ha) (hjson b hb) hsame)⟩

/-- The key list of the body cuts every object inside it to the names of the body's own keys.
Bodies that differ only below that list have one digest, and a `null` body has no keys. -/
theorem oneCanonicalBody_iff (hrt : NumberTexts rt) (hjson : ∀ r ∈ receipts, IsJson r.body)
    (hsha : DigestSeparates rt receipts) :
    OneCanonicalBody rt receipts ↔ (∀ r ∈ receipts, r.body ≠ .null) ∧
      ∀ id, Collides receipts id → ShowsCollision receipts id := by
  constructor
  · rintro ⟨findings, hfindings, hreports⟩
    have hnull := not_null_of_ok hfindings
    refine ⟨hnull, fun id hcollides => ?_⟩
    rw [receiptIdentityInvariant_eq hjson hnull] at hfindings
    cases hfindings
    exact (reports_iff hrt hjson hnull hsha id).mp ((hreports id).mpr hcollides)
  · rintro ⟨hnull, hshows⟩
    refine ⟨_, receiptIdentityInvariant_eq hjson hnull, fun id => ?_⟩
    rw [reports_iff hrt hjson hnull hsha]
    exact ⟨collides_of_showsCollision hjson, hshows id⟩

end Identity

/-- Two copies of one receipt, each with a body of its own. -/
def copies (first second : Value) : List ReceiptRecord :=
  [⟨"Verifrax/VERIFRAX", "receipts/r1.json", "R1", first⟩,
    ⟨"Verifrax/CORPIFORM", "receipts/r1.json", "R1", second⟩]

theorem digestSeparates_counting (receipts : List ReceiptRecord) :
    DigestSeparates .counting receipts :=
  fun _ _ _ _ _ _ _ _ h => (String.append_right_inj _).mp h

theorem oneCanonicalBody_flat : OneCanonicalBody .counting
    (copies (.obj [("hash", .str "a")]) (.obj [("hash", .str "b")])) := by
  refine (oneCanonicalBody_iff numberTexts_counting ?_ (digestSeparates_counting _)).mpr ⟨?_, ?_⟩
  · simp [copies, IsJson, FieldsJson]
  · simp [copies]
  · rintro id ⟨a, ha, _, _, rfl, _⟩
    have hid : a.receipt_id = "R1" := by
      revert a
      simp [copies]
    have hne : shown (.obj [("hash", .str "a")]) ≠ shown (.obj [("hash", .str "b")]) := by
      change Value.obj [("hash", .str "a")] ≠ .obj [("hash", .str "b")]
      simp
    exact ⟨_, List.mem_cons_self, _, List.mem_cons_of_mem _ List.mem_cons_self, hid.symm, hid.symm,
      hne⟩

/-- Receipts whose hashes differ inside an object pass for one receipt. -/
theorem nestedHash_not_oneCanonicalBody : ¬ OneCanonicalBody .counting
    (copies (.obj [("data", .obj [("hash", .str "a")])])
      (.obj [("data", .obj [("hash", .str "b")])])) := by
  generalize hrecords : copies (.obj [("data", .obj [("hash", .str "a")])])
    (.obj [("data", .obj [("hash", .str "b")])]) = records
  have hjson : ∀ r ∈ records, IsJson r.body := by simp [← hrecords, copies, IsJson, FieldsJson]
  have hnull : ∀ r ∈ records, r.body ≠ .null := by simp [← hrecords, copies]
  have hcollides : Collides records "R1" := by
    rw [← hrecords] at hjson ⊢
    refine ⟨_, List.mem_cons_self, _, List.mem_cons_of_mem _ List.mem_cons_self, rfl, rfl, ?_⟩
    rw [same_iff_sortKeys (hjson _ List.mem_cons_self)
      (hjson _ (List.mem_cons_of_mem _ List.mem_cons_self))]
    change Value.obj [("data", .obj [("hash", .str "a")])] ≠ .obj [("data", .obj [("hash", .str "b")])]
    simp
  have hshown : ∀ r ∈ records, shown r.body = .obj [("data", .obj [])] := by
    rw [← hrecords]
    exact List.forall_mem_cons.mpr ⟨rfl, List.forall_mem_cons.mpr ⟨rfl, by simp⟩⟩
  rintro ⟨findings, hfindings, hreports⟩
  rw [receiptIdentityInvariant_eq hjson hnull] at hfindings
  cases hfindings
  obtain ⟨a, ha, b, hb, _, _, hne⟩ :=
    (reports_iff numberTexts_counting hjson hnull (digestSeparates_counting _) "R1").mp
      ((hreports "R1").mpr hcollides)
  exact hne ((hshown a ha).trans (hshown b hb).symm)

end Admissorium.Invariants.ReceiptIdentity
