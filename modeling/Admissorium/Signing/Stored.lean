import Admissorium.JavaScript.JsonCompact
import Admissorium.Signing.TextLength

/-!
# Signed objects that are stored

The signature of an object is over its canonical text in memory, where a member that is
`undefined` is spelled out; `JSON.stringify` leaves such a member out of the stored text.
What is read back therefore verifies exactly when the object had no such member.
-/
namespace Admissorium.Signing.Stored
set_option autoImplicit false

open JavaScript Json Replay TextLength

section
variable {rt : Runtime} {read : String → Option Number} {seed : Value} {fields own : Fields}

/-- The stored text of a signed object is read back as an object that verifies. -/
def Survives (rt : Runtime) (read : String → Option Number) (seed : Value) (own : Fields) : Prop :=
  ∃ text stored, stringify rt (.obj own) = some text ∧ parse read text = .ok (.obj stored) ∧
    verifySignedObject rt stored seed = .ok true

theorem cleaned_envelope (text hash : String) :
    cleanedFields (envelope rt text hash) = envelope rt text hash := rfl

theorem numbersOf_envelope (text hash : String) :
    numbersOf (.obj (envelope rt text hash)) = [] := rfl

theorem loose_envelope (text hash : String) {field : String × Value}
    (h : field ∈ envelope rt text hash) : Loose field.2 := by
  simp only [envelope, List.mem_cons, List.not_mem_nil, or_false] at h
  rcases h with rfl | rfl | rfl | rfl <;> trivial

theorem keys_envelope (text hash : String) :
    (envelope rt text hash).map Prod.fst =
      ["canonical_hash", "signature_algorithm", "signer_key_ref", "signature"] := rfl

/-- The keys of the envelope are none of the others. -/
theorem loose_signed (text hash : String) (h : Loose (.obj (unsigned fields))) :
    Loose (.obj (unsigned fields ++ envelope rt text hash)) := by
  rw [loose_obj] at h ⊢
  refine ⟨?_, ?_⟩
  · rw [List.map_append, List.nodup_append, keys_envelope]
    refine ⟨h.1, by decide, ?_⟩
    intro key hkey other hother heq
    obtain ⟨field, hfield, rfl⟩ := List.mem_map.mp hkey
    have hout := of_decide_eq_true (List.mem_filter.mp hfield).2
    have hlisted : ∀ k ∈ ["canonical_hash", "signature_algorithm", "signer_key_ref", "signature"],
        k ∈ signatureFields := by decide
    exact hout (heq ▸ hlisted other hother)
  · intro field hfield
    rcases List.mem_append.mp hfield with hmem | hmem
    · exact h.2 field hmem
    · exact Or.inr (loose_envelope text hash hmem)

theorem unsigned_cleanedFields (fields : Fields) :
    unsigned (cleanedFields (unsigned fields)) = cleanedFields (unsigned fields) := by
  refine List.filter_eq_self.mpr fun field hfield => ?_
  obtain ⟨v, hmem, _, _⟩ := exists_of_mem_cleanedFields hfield
  exact (List.mem_filter.mp hmem).2

/-- A signed object survives being stored exactly when nothing in it is `undefined`. -/
theorem survives_iff (h : signObject rt fields seed = .ok (.obj own))
    (hloose : Loose (.obj (unsigned fields)))
    (hnum : ∀ q ∈ numbersOf (.obj (unsigned fields)), ReadsBack rt read q)
    (hsha : DigestSeparates rt (unsigned fields) (cleanedFields (unsigned fields))) :
    Survives rt read seed own ↔ IsJson (.obj (unsigned fields)) := by
  obtain ⟨_, _, hrest⟩ := bind_eq_ok.mp h
  obtain ⟨text, hseed, _⟩ := bind_eq_ok.mp hrest
  have hdefined : ∀ fields : Fields, ∃ canonical, canonicalJson rt (.obj fields) = some canonical := by
    intro fields
    rw [canonicalJson]
    exact ⟨_, rfl⟩
  obtain ⟨canonical, hc⟩ := hdefined (unsigned fields)
  have hown := h.symm.trans (signObject_eq hseed hc)
  rw [Except.ok.injEq, Value.obj.injEq] at hown
  have hnumbers : ∀ q ∈ numbersOf (.obj own), ReadsBack rt read q := by
    intro q hq
    obtain ⟨field, hfield, hq⟩ := mem_numbersOf_obj.mp hq
    rw [hown] at hfield
    rcases List.mem_append.mp hfield with hmem | hmem
    · exact hnum q (mem_numbersOf_obj.mpr ⟨field, hmem, hq⟩)
    · have hnone := mem_numbersOf_obj.mpr ⟨field, hmem, hq⟩
      rw [numbersOf_envelope] at hnone
      exact absurd hnone List.not_mem_nil
  have hlooseOwn : Loose (.obj own) := by
    rw [hown]
    exact loose_signed text _ hloose
  have hread : parse read (textOf rt (.obj own)) = .ok (.obj (cleanedFields own)) := by
    rw [parse_textOf hlooseOwn hnumbers, cleaned]
  have hsurvives : Survives rt read seed own ↔
      verifySignedObject rt (cleanedFields own) seed = .ok true := by
    have hstring : stringify rt (.obj own) = some (textOf rt (.obj own)) := rfl
    constructor
    · intro hcase
      obtain ⟨stringified, stored, htext, hparse, hverify⟩ := hcase
      rw [hstring, Option.some.injEq] at htext
      rw [← htext, hread, Except.ok.injEq, Value.obj.injEq] at hparse
      rw [hparse]
      exact hverify
    · exact fun hverify => ⟨_, _, hstring, hread, hverify⟩
  rw [hsurvives]
  constructor
  · intro hverify
    obtain ⟨shorter, hshorter⟩ := hdefined (cleanedFields (unsigned fields))
    have hkept : cleanedFields own = unsigned (cleanedFields (unsigned fields)) ++
        envelope rt text (rt.sha256 canonical) := by
      rw [hown, cleanedFields_append, cleaned_envelope, unsigned_cleanedFields]
    have hstripped : canonicalJson rt (.obj (unsigned (cleanedFields own))) = some shorter := by
      rw [hkept, unsigned_append_envelope, unsigned_cleanedFields, hshorter]
    rw [verifySignedObject_iff hseed hstripped, hkept] at hverify
    obtain ⟨_, _, hhash, _⟩ := hverify
    rw [get_append_envelope _ _ (by decide)] at hhash
    have hsame : canonical = shorter := hsha _ _ hc hshorter (Value.str.inj hhash)
    have hlength : textLength rt (cleaned (.obj (unsigned fields))) =
        textLength rt (.obj (unsigned fields)) := by
      rw [textLength, textLength, cleaned, hshorter, hc, hsame]
    refine (textLength_cleaned rt _ hloose).resolve_right fun hlt => ?_
    omega
  · intro hjson
    have hclean := cleaned_of_isJson _ hjson
    rw [cleaned, Value.obj.injEq] at hclean
    rw [hown, cleanedFields_append, hclean, cleaned_envelope, ← hown]
    exact verify_of_signObject h

end

end Admissorium.Signing.Stored
