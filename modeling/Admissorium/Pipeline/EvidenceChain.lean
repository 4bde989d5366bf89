import Admissorium.Pipeline.QuarantineSuite
import Admissorium.Signing.TextLength

/-!
# One verdict along the evidence chain

A verdict, its receipt, the quarantine record and the repair packet are compiled in sequence
under the same options. The receipt hashes the verdict with its signature; the record and the
packet copy the hash the verdict carries, which is over the verdict before it was signed. A
signature lengthens the canonical text, so the two hashes are of different texts.
-/
namespace Admissorium.Pipeline.EvidenceChain
set_option autoImplicit false

open JavaScript Classify Signing Signing.Replay Signing.TextLength Verdict Verdict.Admission QuarantineSuite

/-- What is compiled from one candidate, each from what comes before it. -/
structure Compiled (rt : Runtime) (candidate : Value) (options : CompileOptions)
    (verdict receipt quarantine packet : Value) : Prop where
  verdict_eq : compileActuatorVerdict rt candidate options = .ok verdict
  receipt_eq : compileAdmissionReceipt rt verdict options = .ok receipt
  quarantine_eq : routeQuarantine rt verdict receipt options = .ok quarantine
  packet_eq : compileDryRunRepairPacket rt verdict receipt quarantine options = .ok packet

/-- The hashes of the chain name one verdict, one receipt and one quarantine record. -/
def NamesOneVerdict (rt : Runtime) (candidate : Value) (options : CompileOptions) : Prop :=
  ∀ verdict receipt quarantine packet, Compiled rt candidate options verdict receipt quarantine packet →
    receipt.get "verdict_hash" = quarantine.get "verdict_hash" ∧
    quarantine.get "verdict_hash" = packet.get "verdict_hash" ∧
    quarantine.get "receipt_hash" = receipt.get "canonical_hash" ∧
    packet.get "receipt_hash" = receipt.get "canonical_hash" ∧
    packet.get "quarantine_hash" = quarantine.get "canonical_hash"

/-- The classifiers can read the candidate, and the signer accepts the seed. -/
def CanCompile (rt : Runtime) (candidate : Value) (options : CompileOptions) : Prop :=
  (∃ paths text, Reads rt candidate paths text) ∧ ∃ seed, seedText options.signing_seed = .ok seed

/-! ## Longer objects have longer texts -/

/-- With more fields the canonical text is longer. -/
theorem length_canonicalJson_lt {rt : Runtime} {fields more : Fields} {text longer : String}
    (hmore : more ≠ []) (h : canonicalJson rt (.obj fields) = some text)
    (hl : canonicalJson rt (.obj (fields ++ more)) = some longer) : text.length < longer.length := by
  obtain ⟨field, rest, rfl⟩ := List.exists_cons_of_ne_nil hmore
  have hlength : ∀ {v : Value} {text : String}, canonicalJson rt v = some text →
      textLength rt v = text.length := by
    intro v text hv
    rw [textLength, hv, Option.getD_some]
  have hmember : 2 ≤ memberLength rt field := Nat.le_add_left _ _
  rw [← hlength h, ← hlength hl, textLength_obj, textLength_obj, List.map_append, List.sum_append,
    List.map_cons, List.sum_cons]
  omega

/-! ## The hashes of the chain -/

section Chain
variable {rt : Runtime} {candidate verdict receipt quarantine packet : Value}
  {options : CompileOptions}

/-- What the chain copies it copies rightly. -/
theorem copied_hashes (h : Compiled rt candidate options verdict receipt quarantine packet) :
    quarantine.get "verdict_hash" = verdict.get "canonical_hash" ∧
    packet.get "verdict_hash" = verdict.get "canonical_hash" ∧
    quarantine.get "receipt_hash" = receipt.get "canonical_hash" ∧
    packet.get "receipt_hash" = receipt.get "canonical_hash" ∧
    packet.get "quarantine_hash" = quarantine.get "canonical_hash" := by
  obtain ⟨_, _, hq⟩ := bind_eq_ok.mp h.quarantine_eq
  obtain ⟨_, _, hq⟩ := bind_eq_ok.mp hq
  obtain ⟨_, _, hp⟩ := bind_eq_ok.mp h.packet_eq
  obtain ⟨_, _, hp⟩ := bind_eq_ok.mp hp
  obtain ⟨_, _, hp⟩ := bind_eq_ok.mp hp
  exact ⟨get_of_signObject hq (by decide), get_of_signObject hp (by decide),
    get_of_signObject hq (by decide), get_of_signObject hp (by decide),
    get_of_signObject hp (by decide)⟩

/-- The receipt hashes the verdict as it is signed. -/
theorem verdict_hash_of_receipt (h : compileAdmissionReceipt rt verdict options = .ok receipt) :
    ∃ digest, objectDigest rt verdict = .ok digest ∧ receipt.get "verdict_hash" = .str digest := by
  obtain ⟨_, _, h⟩ := bind_eq_ok.mp h
  obtain ⟨digest, hd, h⟩ := bind_eq_ok.mp h
  exact ⟨digest, hd, get_of_signObject h (by decide)⟩

/-- A signed object is the unsigned one and an envelope over the hash of its text. -/
theorem exists_envelope {fields : Fields} {seed signed : Value}
    (h : signObject rt fields seed = .ok signed) : ∃ key canonical,
      canonicalJson rt (.obj (unsigned fields)) = some canonical ∧
      signed = .obj (unsigned fields ++ envelope rt key (rt.sha256 canonical)) := by
  obtain ⟨_, _, hrest⟩ := bind_eq_ok.mp h
  obtain ⟨key, hseed, _⟩ := bind_eq_ok.mp hrest
  obtain ⟨canonical, hc⟩ : ∃ canonical,
      canonicalJson rt (.obj (unsigned fields)) = some canonical := by
    rw [canonicalJson]
    exact ⟨_, rfl⟩
  rw [signObject_eq hseed hc, Except.ok.injEq] at h
  exact ⟨key, canonical, hc, h.symm⟩

/-- The hash of a signed object is not the hash it carries. -/
theorem digest_ne_canonical_hash {fields own : Fields} {seed : Value} {digest : String}
    (h : signObject rt fields seed = .ok (.obj own)) (hd : objectDigest rt (.obj own) = .ok digest)
    (hsha : DigestSeparates rt (unsigned own) own) :
    (Value.obj own).get "canonical_hash" ≠ .str digest := by
  obtain ⟨_, canonical, hc, hown⟩ := exists_envelope h
  rw [Value.obj.injEq] at hown
  obtain ⟨longer, hlonger⟩ : ∃ longer, canonicalJson rt (.obj own) = some longer := by
    rw [canonicalJson]
    exact ⟨_, rfl⟩
  rw [objectDigest, hlonger, Except.ok.injEq] at hd
  have hlength : canonical.length < longer.length := by
    refine length_canonicalJson_lt ?_ hc (hown ▸ hlonger)
    exact List.cons_ne_nil _ _
  intro hhash
  have hget : (Value.obj own).get "canonical_hash" = .str (rt.sha256 canonical) := by
    rw [hown]
    exact get_append_envelope fields _ (by decide)
  rw [hget, Value.str.injEq, ← hd] at hhash
  have hunsigned : canonicalJson rt (.obj (unsigned own)) = some canonical := by
    rw [hown, unsigned_append_envelope, hc]
  have htext := hsha _ _ hunsigned hlonger hhash
  rw [htext] at hlength
  exact Nat.lt_irrefl _ hlength

/-- A verdict is signed under the seed of the options. -/
theorem signed_of_verdict (h : compileActuatorVerdict rt candidate options = .ok verdict) :
    ∃ fields, signObject rt fields options.signing_seed = .ok verdict := by
  obtain ⟨_, _, h⟩ := bind_eq_ok.mp h
  obtain ⟨_, _, h⟩ := bind_eq_ok.mp h
  obtain ⟨_, _, h⟩ := bind_eq_ok.mp h
  obtain ⟨_, _, h⟩ := bind_eq_ok.mp h
  obtain ⟨_, _, h⟩ := bind_eq_ok.mp h
  obtain ⟨_, _, h⟩ := bind_eq_ok.mp h
  exact ⟨_, h⟩

theorem canCompile_of_compiled (h : compileActuatorVerdict rt candidate options = .ok verdict) :
    CanCompile rt candidate options := by
  obtain ⟨_, hsigned⟩ := signed_of_verdict h
  obtain ⟨_, _, hrest⟩ := bind_eq_ok.mp hsigned
  obtain ⟨seed, hseed, _⟩ := bind_eq_ok.mp hrest
  obtain ⟨surface, hs, _⟩ := bind_eq_ok.mp h
  obtain ⟨paths, text, hread, _⟩ := reads_of_surface hs
  exact ⟨⟨paths, text, hread⟩, seed, hseed⟩

/-- Where the verdict can be compiled, so can the rest of the chain. -/
theorem exists_compiled_chain (h : CanCompile rt candidate options) :
    ∃ verdict receipt quarantine packet,
      Compiled rt candidate options verdict receipt quarantine packet := by
  obtain ⟨⟨paths, text, hread⟩, seed, hseed⟩ := h
  obtain ⟨surface, mutation, risk, hclass⟩ := exists_classified_of_reads hread
  obtain ⟨verdict, hv⟩ := exists_compiled hseed hclass
  obtain ⟨receipt, hr⟩ := exists_receipt_of_fields rt hseed verdict
  obtain ⟨quarantine, hq, _⟩ := exists_signObject rt
    (quarantineFields (.obj verdict) (.obj receipt) options) hseed
  obtain ⟨packet, hp, _⟩ := exists_signObject rt
    (repairFields (.obj verdict) (.obj receipt) (.obj quarantine) options) hseed
  exact ⟨_, _, _, _, hv, hr, hq, hp⟩

/-- A chain that is compiled names two verdicts: the digest tells the verdict from what it signs. -/
theorem not_namesOneVerdict (hcan : CanCompile rt candidate options)
    (hsha : ∀ own, compileActuatorVerdict rt candidate options = .ok (.obj own) →
      DigestSeparates rt (unsigned own) own) : ¬ NamesOneVerdict rt candidate options := by
  intro hone
  obtain ⟨verdict, receipt, quarantine, packet, h⟩ := exists_compiled_chain hcan
  obtain ⟨hsame, _⟩ := hone _ _ _ _ h
  obtain ⟨digest, hd, hreceipt⟩ := verdict_hash_of_receipt h.receipt_eq
  obtain ⟨hquarantine, _⟩ := copied_hashes h
  obtain ⟨fields, hv⟩ := signed_of_verdict h.verdict_eq
  obtain ⟨own, rfl⟩ := isObject_of_signObject hv
  apply digest_ne_canonical_hash hv hd (hsha own h.verdict_eq)
  rw [← hquarantine, ← hsame, hreceipt]

/-- The hashes agree exactly when there is nothing to compile. -/
theorem namesOneVerdict_iff (hsha : ∀ own, compileActuatorVerdict rt candidate options = .ok (.obj own) →
    DigestSeparates rt (unsigned own) own) :
    NamesOneVerdict rt candidate options ↔ ¬ CanCompile rt candidate options := by
  constructor
  · exact fun hone hcan => not_namesOneVerdict hcan hsha hone
  · intro hnone verdict receipt quarantine packet h
    exact absurd (canCompile_of_compiled h.verdict_eq) hnone

end Chain

/-! ## A chain that names two verdicts -/

def plainCandidate : Value := .obj [("id", .str "candidate-1")]

theorem canCompile_plainCandidate (rt : Runtime) : CanCompile rt plainCandidate {} := by
  obtain ⟨text, hread⟩ := @reads_of_no_files rt [("id", .str "candidate-1")] rfl
  exact ⟨⟨[], text, hread⟩, defaultLocalSigningSeed, seedText_undefined⟩

theorem plainCandidate_not_namesOneVerdict : ¬ NamesOneVerdict .ascii plainCandidate {} :=
  not_namesOneVerdict (canCompile_plainCandidate .ascii) (fun _ _ => digestSeparates_ascii _ _)

theorem namesOneVerdict_plainCandidate_iff :
    NamesOneVerdict .ascii plainCandidate {} ↔ ¬ CanCompile .ascii plainCandidate {} :=
  namesOneVerdict_iff (fun _ _ => digestSeparates_ascii _ _)

end Admissorium.Pipeline.EvidenceChain
