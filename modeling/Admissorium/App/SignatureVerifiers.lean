import Admissorium.App.WebhookIntake
import Admissorium.JavaScript.LowerCase

/-!
# Three verifiers of one webhook signature

`src/app/webhook-signature` exists twice, in JavaScript and in TypeScript, and
`app/webhook-intake` has a verifier of its own. The TypeScript ones compare texts and
ask nothing of the secret; the JavaScript one refuses an empty secret, trims the digest
and compares the bytes it decodes to. So the three differ on the empty secret and on
the other spellings of the digest, and nowhere else (`verifiersAgree_iff`).
-/
namespace Admissorium.App.SignatureVerifiers
set_option autoImplicit false

open JavaScript RegExp WebhookRequest WebhookIntake

/-! ## Hexadecimal buffers -/

def hexDigits : List Char := "0123456789abcdef".toList

/-- The value of a digit of either case. -/
def hexValue (c : Char) : Option Nat := hexDigits.findIdx? (· = c.toLower)

/-- `Buffer.from(text, "hex")`, which stops at the first pair that is not one of digits. -/
def hexBytes : List Char → List Nat
  | high :: low :: rest =>
      match hexValue high, hexValue low with
      | some h, some l => (16 * h + l) :: hexBytes rest
      | _, _ => []
  | _ => []

theorem member_range_ascii {lo hi c : Char} (hhi : hi.toNat < 128)
    (h : (CharSet.range lo hi).member c = true) : c.toNat < 128 := by
  simp only [CharSet.member, Bool.and_eq_true, decide_eq_true_eq] at h
  have hle : c.toNat ≤ hi.toNat := h.2
  omega

/-- The pattern's digits are those that have a value. -/
theorem member_hexDigit_iff (c : Char) : hexDigit.member c = true ↔ c.toLower ∈ hexDigits := by
  by_cases hc : c.toNat < 128
  · exact ascii_cases (P := fun c => hexDigit.member c = true ↔ c.toLower ∈ hexDigits)
      (by decide +kernel) hc
  · have hdigits : ∀ d ∈ hexDigits, d.toNat < 128 := by decide
    rw [toLower_of_not_ascii hc]
    refine iff_of_false ?_ (fun hm => hc (hdigits c hm))
    intro hcase
    change ((CharSet.range '0' '9').member c || ((CharSet.range 'a' 'f').member c ||
      (CharSet.range 'A' 'F').member c)) = true at hcase
    rw [Bool.or_eq_true, Bool.or_eq_true] at hcase
    rcases hcase with h | h | h
    · exact hc (member_range_ascii (by decide) h)
    · exact hc (member_range_ascii (by decide) h)
    · exact hc (member_range_ascii (by decide) h)

theorem hexValue_of_mem {c : Char} (h : c.toLower ∈ hexDigits) :
    ∃ n, n < 16 ∧ hexValue c = some n := by
  have hvalues : ∀ d ∈ hexDigits, ∃ n < 16, hexDigits.findIdx? (· = d) = some n := by decide
  obtain ⟨n, hn, hvalue⟩ := hvalues c.toLower h
  exact ⟨n, hn, hvalue⟩

/-- Digits have one value exactly when they are one digit up to case. -/
theorem hexValue_eq_iff {c d : Char} (hc : c.toLower ∈ hexDigits) (hd : d.toLower ∈ hexDigits) :
    hexValue c = hexValue d ↔ c.toLower = d.toLower := by
  have hapart : ∀ a ∈ hexDigits, ∀ b ∈ hexDigits,
      hexDigits.findIdx? (· = a) = hexDigits.findIdx? (· = b) → a = b := by decide +kernel
  constructor
  · exact hapart c.toLower hc d.toLower hd
  · intro h
    rw [hexValue, hexValue, h]

/-- Two texts of digits decode to the same bytes exactly when they differ by case only. -/
theorem hexBytes_eq_iff (n : Nat) {u v : List Char} (hu : u.length = 2 * n) (hv : v.length = 2 * n)
    (hudigits : ∀ c ∈ u, c.toLower ∈ hexDigits) (hvdigits : ∀ c ∈ v, c.toLower ∈ hexDigits) :
    hexBytes u = hexBytes v ↔ u.map Char.toLower = v.map Char.toLower := by
  induction n generalizing u v with
  | zero =>
      rw [List.length_eq_zero_iff.mp hu, List.length_eq_zero_iff.mp hv]
      simp
  | succ n ih =>
      match u, v, hu, hv with
      | a :: b :: u, c :: d :: v, hu, hv =>
          simp only [List.forall_mem_cons] at hudigits hvdigits
          obtain ⟨ha, hb, hu'⟩ := hudigits
          obtain ⟨hc, hd, hv'⟩ := hvdigits
          have hrest := ih (u := u) (v := v) (by simp at hu; omega) (by simp at hv; omega) hu' hv'
          obtain ⟨x, hx, hax⟩ := hexValue_of_mem ha
          obtain ⟨y, hy, hby⟩ := hexValue_of_mem hb
          obtain ⟨z, hz, hcz⟩ := hexValue_of_mem hc
          obtain ⟨w, hw, hdw⟩ := hexValue_of_mem hd
          have hac := hexValue_eq_iff ha hc
          have hbd := hexValue_eq_iff hb hd
          rw [hax, hcz, Option.some.injEq] at hac
          rw [hby, hdw, Option.some.injEq] at hbd
          simp only [hexBytes, hax, hby, hcz, hdw, List.map_cons, List.cons.injEq, hrest, ← hac,
            ← hbd]
          constructor
          · intro h
            exact ⟨by omega, by omega, h.2⟩
          · intro h
            exact ⟨by omega, h.2.2⟩

/-! ## `src/app/webhook-signature.js` -/

namespace Js

/-- What the verifier asserts of itself in every answer. -/
def noWriterFlags : List (String × Bool) :=
  [("writer_enabled", false), ("webhook_receiver_enabled", false),
    ("network_listener_enabled", false), ("token_required", false),
    ("token_persistence_enabled", false), ("check_run_writer_enabled", false),
    ("pull_request_writer_enabled", false), ("issue_writer_enabled", false),
    ("contents_write_enabled", false), ("allowed_to_mutate_truth", false)]

structure SignatureResult where
  verifier : String := "ADMISSORIUM_WEBHOOK_SIGNATURE_VERIFIER"
  schema_version : String := "1.0.0"
  truth_warning : String := "NOT_TRUTH_SOURCE"
  flags : List (String × Bool) := noWriterFlags
  signature_algorithm : String := "sha256"
  signature_valid : Bool := false
  accepted : Bool := false
  reason : String := "unverified"
  deriving DecidableEq, Repr

/-- A payload handed over as a text; its buffer holds the text's UTF-8 bytes. -/
def signWebhookPayload (rt : Runtime) (payload secret : String) : Except JsError String :=
  if secret = "" then .error (.error "webhook_secret_required_for_local_signature")
  else .ok ("sha256=" ++ rt.hmacSha256 secret payload)

def verifyWebhookSignature (rt : Runtime) (payload secret signature : String) :
    Except JsError SignatureResult := do
  let base : SignatureResult := {}
  if secret = "" then
    return { base with reason := "missing_webhook_secret" }
  if signature = "" then
    return { base with reason := "missing_signature" }
  if !Text.startsWith signature "sha256=" then
    return { base with reason := "unsupported_signature_algorithm" }
  let actualHex :=
    Text.trim (String.ofList (signature.toList.drop "sha256=".length))
  if !digestPattern.test actualHex then
    return { base with reason := "malformed_signature" }
  let expected ← signWebhookPayload rt payload secret
  let expectedHex := expected.toList.drop "sha256=".length
  let actual := hexBytes actualHex.toList
  let wanted := hexBytes expectedHex
  let signature_valid := actual.length = wanted.length && actual = wanted
  return { base with
    signature_valid
    accepted := signature_valid
    reason := if signature_valid then "signature_valid" else "signature_mismatch" }

end Js

/-! ## `src/app/webhook-signature.ts` -/

namespace Ts

def signWebhookBody (rt : Runtime) (secret body : String) : String :=
  "sha256=" ++ rt.hmacSha256 secret body

def verifyWebhookSignature (rt : Runtime) (secret body signature : String) : Bool :=
  signWebhookBody rt secret body = signature

end Ts

/-! ## What each of them accepts -/

/-- Another way to write the digest: with blanks around it or digits in upper case. -/
def OtherSpelling (digest text : String) : Prop :=
  text ≠ digest ∧ asciiLower (Text.trim text) = digest

theorem asciiLower_toList (s : String) : (asciiLower s).toList = s.toList.map Char.toLower := by
  simp [asciiLower]

theorem hexDigits_of_isHexDigest {digest : String} (h : IsHexDigest digest) {c : Char}
    (hc : c ∈ digest.toList) : c ∈ hexDigits ∧ c.toLower = c := by
  have hascii : c.toNat < 128 := by
    rcases h.2 c hc with ⟨_, hhi⟩ | ⟨_, hhi⟩
    · exact lt_of_le_of_lt (b := '9'.toNat) hhi (by decide)
    · exact lt_of_le_of_lt (b := 'f'.toNat) hhi (by decide)
  exact ascii_cases (P := fun c => ('0' ≤ c ∧ c ≤ '9') ∨ ('a' ≤ c ∧ c ≤ 'f') →
    c ∈ hexDigits ∧ c.toLower = c) (by decide +kernel) hascii (h.2 c hc)

theorem asciiLower_of_isHexDigest {digest : String} (h : IsHexDigest digest) :
    asciiLower digest = digest := by
  apply String.toList_inj.mp
  rw [asciiLower_toList]
  exact (List.map_congr_left fun c hc => (hexDigits_of_isHexDigest h hc).2).trans (List.map_id _)

theorem trim_of_isHexDigest {digest : String} (h : IsHexDigest digest) :
    Text.trim digest = digest := by
  have hsolid : ∀ c ∈ digest.toList, c ∉ whiteSpace := by
    have hblank : ∀ c ∈ hexDigits, c ∉ whiteSpace := by decide
    exact fun c hc => hblank c (hexDigits_of_isHexDigest h hc).1
  have hdrop : ∀ l : List Char, (∀ c ∈ l, c ∉ whiteSpace) →
      l.dropWhile (· ∈ whiteSpace) = l := by
    intro l hl
    cases l with
    | nil => rfl
    | cons c l => simp [hl c (by simp)]
  rw [Text.trim, hdrop _ hsolid, hdrop _ (by simpa using hsolid), List.reverse_reverse,
    String.ofList_toList]

theorem digestPattern_iff (text : String) :
    digestPattern.test text = true ↔
      text.toList.length = 64 ∧ ∀ c ∈ text.toList, c.toLower ∈ hexDigits := by
  have hplain : (List.replicate 64 (set hexDigit)).all plain = true := by decide
  rw [digestPattern, test_anchored hplain, mem_lang_replicate]
  simp only [member_hexDigit_iff]

/-- The bytes of a well-formed digest are the wanted ones exactly when it is the digest
up to case. -/
theorem sameBytes_iff {digest : String} (h : IsHexDigest digest) (text : String) :
    digestPattern.test text = true ∧ hexBytes text.toList = hexBytes digest.toList ↔
      asciiLower text = digest := by
  have hdigits : ∀ c ∈ digest.toList, c.toLower ∈ hexDigits := by
    intro c hc
    obtain ⟨hmem, hlower⟩ := hexDigits_of_isHexDigest h hc
    rw [hlower]
    exact hmem
  have hself : digest.toList.map Char.toLower = digest.toList := by
    rw [← asciiLower_toList, asciiLower_of_isHexDigest h]
  have hlists : asciiLower text = digest ↔ text.toList.map Char.toLower = digest.toList := by
    rw [← asciiLower_toList, String.toList_inj]
  rw [digestPattern_iff, hlists]
  constructor
  · intro hcase
    obtain ⟨⟨hlength, htext⟩, hbytes⟩ := hcase
    rw [← hself]
    exact (hexBytes_eq_iff 32 hlength h.1 htext hdigits).mp hbytes
  · intro hmap
    have hlength : text.toList.length = 64 := by
      rw [← h.1, ← hmap, List.length_map]
    have htext : ∀ c ∈ text.toList, c.toLower ∈ hexDigits := by
      intro c hc
      have hc' : c.toLower ∈ digest.toList := by
        rw [← hmap]
        exact List.mem_map_of_mem hc
      exact (hexDigits_of_isHexDigest h hc').1
    refine ⟨⟨hlength, htext⟩, ?_⟩
    rw [hexBytes_eq_iff 32 hlength h.1 htext hdigits, hmap, hself]

section Verifiers

variable {rt : Runtime} (body secret signature : String)

/-- The JavaScript verifier answers, and accepts. -/
def Js.Accepts (rt : Runtime) (body secret signature : String) : Prop :=
  ∃ result, Js.verifyWebhookSignature rt body secret signature = .ok result ∧
    result.accepted = true

/-- It never throws. -/
theorem Js.verifyWebhookSignature_ok :
    ∃ result, Js.verifyWebhookSignature rt body secret signature = .ok result := by
  unfold Js.verifyWebhookSignature Js.signWebhookPayload
  by_cases hsecret : secret = ""
  · exact ⟨_, by rw [if_pos hsecret]; rfl⟩
  rw [if_neg hsecret]
  by_cases hsignature : signature = ""
  · exact ⟨_, by simp only [if_pos hsignature]; rfl⟩
  simp only [if_neg hsignature]
  split
  · exact ⟨_, rfl⟩
  split
  · exact ⟨_, rfl⟩
  · exact ⟨_, rfl⟩

theorem exists_prefixed_iff (signature : String) :
    Text.startsWith signature "sha256=" = true ↔ ∃ text, signature = "sha256=" ++ text := by
  rw [Text.startsWith, List.isPrefixOf_iff_prefix]
  constructor
  · intro h
    obtain ⟨rest, hrest⟩ := h
    refine ⟨String.ofList rest, String.toList_inj.mp ?_⟩
    have hlist : (String.ofList rest).toList = rest := String.toList_ofList
    rw [String.toList_append, hlist, hrest]
  · intro h
    obtain ⟨text, rfl⟩ := h
    rw [String.toList_append]
    exact List.prefix_append _ _

/-- A prefixed signature is accepted when what follows decodes to the wanted bytes. -/
theorem Js.accepts_prefixed_iff (hsecret : secret ≠ "") (text : String) :
    Js.Accepts rt body secret ("sha256=" ++ text) ↔
      digestPattern.test (Text.trim text) = true ∧ hexBytes (Text.trim text).toList =
        hexBytes (rt.hmacSha256 secret body).toList := by
  have hne : "sha256=" ++ text ≠ "" := by
    intro h
    have hlength := congrArg (fun s => s.toList.length) h
    simp at hlength
  have hstart := (exists_prefixed_iff ("sha256=" ++ text)).mpr ⟨text, rfl⟩
  have hdrop : ∀ s : String, ("sha256=" ++ s).toList.drop "sha256=".length = s.toList := by
    intro s
    have hlength : "sha256=".length = "sha256=".toList.length := rfl
    rw [String.toList_append, hlength, List.drop_left]
  unfold Js.Accepts Js.verifyWebhookSignature Js.signWebhookPayload
  simp only [if_neg hsecret, if_neg hne, hstart, hdrop, String.ofList_toList]
  cases digestPattern.test (Text.trim text) with
  | false =>
      refine iff_of_false ?_ (fun h => Bool.false_ne_true h.1)
      intro h
      obtain ⟨result, hresult, haccepted⟩ := h
      cases hresult
      cases haccepted
  | true =>
      simp only [true_and]
      constructor
      · intro h
        obtain ⟨result, hresult, haccepted⟩ := h
        cases hresult
        simp only [hdrop, Bool.and_eq_true, decide_eq_true_eq] at haccepted
        exact haccepted.2
      · intro h
        refine ⟨_, rfl, ?_⟩
        simp only [hdrop, h, decide_true, Bool.and_self]

theorem Js.accepts_iff (hhex : IsHexDigest (rt.hmacSha256 secret body)) :
    Js.Accepts rt body secret signature ↔ secret ≠ "" ∧ ∃ text, signature = "sha256=" ++ text ∧
      asciiLower (Text.trim text) = rt.hmacSha256 secret body := by
  by_cases hsecret : secret = ""
  · refine iff_of_false ?_ (fun h => h.1 hsecret)
    intro h
    obtain ⟨result, hresult, haccepted⟩ := h
    unfold Js.verifyWebhookSignature at hresult
    rw [if_pos hsecret] at hresult
    cases hresult
    cases haccepted
  · constructor
    · intro h
      have hstart : Text.startsWith signature "sha256=" = true := by
        by_contra hnot
        rw [Bool.not_eq_true] at hnot
        obtain ⟨result, hresult, haccepted⟩ := h
        unfold Js.verifyWebhookSignature at hresult
        by_cases hempty : signature = ""
        · simp only [if_neg hsecret, if_pos hempty] at hresult
          cases hresult
          cases haccepted
        · simp only [if_neg hsecret, if_neg hempty, hnot] at hresult
          cases hresult
          cases haccepted
      obtain ⟨text, rfl⟩ := (exists_prefixed_iff signature).mp hstart
      exact ⟨hsecret, text, rfl, (sameBytes_iff hhex _).mp
        ((Js.accepts_prefixed_iff body secret hsecret text).mp h)⟩
    · intro h
      obtain ⟨_, text, rfl, hsame⟩ := h
      exact (Js.accepts_prefixed_iff body secret hsecret text).mpr ((sameBytes_iff hhex _).mpr hsame)

theorem Ts.verifyWebhookSignature_iff :
    Ts.verifyWebhookSignature rt secret body signature = true ↔
      signature = "sha256=" ++ rt.hmacSha256 secret body := by
  rw [Ts.verifyWebhookSignature, decide_eq_true_eq, Ts.signWebhookBody, eq_comm]

/-! ## Agreement -/

/-- The three verifiers give the same answer, and none accepts an empty secret. -/
structure VerifiersAgree (rt : Runtime) (body secret signature : String) : Prop where
  js_intake : Js.Accepts rt body secret signature ↔
    (verifyGitHubWebhookSignature rt body secret (some signature)).verdict = .valid
  intake_ts : (verifyGitHubWebhookSignature rt body secret (some signature)).verdict = .valid ↔
    Ts.verifyWebhookSignature rt secret body signature = true
  secret : secret = "" → ¬ Js.Accepts rt body secret signature ∧
    (verifyGitHubWebhookSignature rt body secret (some signature)).verdict ≠ .valid ∧
    Ts.verifyWebhookSignature rt secret body signature = false

/-- They agree unless the secret is empty and the signature is its HMAC, or the secret is
not empty and the signature spells its HMAC in another way. -/
theorem verifiersAgree_iff (hhex : IsHexDigest (rt.hmacSha256 secret body)) :
    VerifiersAgree rt body secret signature ↔
      ¬ (secret = "" ∧ signature = "sha256=" ++ rt.hmacSha256 secret body) ∧
      ¬ (secret ≠ "" ∧ ∃ text, signature = "sha256=" ++ text ∧
        OtherSpelling (rt.hmacSha256 secret body) text) := by
  have hvalid : (verifyGitHubWebhookSignature rt body secret (some signature)).verdict = .valid ↔
      signature = "sha256=" ++ rt.hmacSha256 secret body := by
    rw [verify_valid_iff hhex, Option.some.injEq, expectedSignature]
  have hts : Ts.verifyWebhookSignature rt secret body signature = true ↔
      signature = "sha256=" ++ rt.hmacSha256 secret body :=
    Ts.verifyWebhookSignature_iff body secret signature
  have hjs := Js.accepts_iff body secret signature hhex
  constructor
  · intro h
    constructor
    · intro hcase
      obtain ⟨hsecret, hexpected⟩ := hcase
      exact (h.secret hsecret).2.1 (hvalid.mpr hexpected)
    · intro hcase
      obtain ⟨hsecret, text, rfl, hne, hsame⟩ := hcase
      have haccepts := hjs.mpr ⟨hsecret, text, rfl, hsame⟩
      have hexpected := hvalid.mp (h.js_intake.mp haccepts)
      exact hne (String.append_right_inj "sha256=" |>.mp hexpected)
  · intro h
    obtain ⟨hempty, hspelling⟩ := h
    have hplain : signature = "sha256=" ++ rt.hmacSha256 secret body →
        Js.Accepts rt body secret signature := by
      intro hexpected
      have hsecret : secret ≠ "" := fun hs => hempty ⟨hs, hexpected⟩
      refine hjs.mpr ⟨hsecret, _, hexpected, ?_⟩
      rw [trim_of_isHexDigest hhex, asciiLower_of_isHexDigest hhex]
    refine ⟨?_, hvalid.trans hts.symm, ?_⟩
    · rw [hvalid]
      refine ⟨?_, hplain⟩
      intro haccepts
      obtain ⟨hsecret, text, htext, hsame⟩ := hjs.mp haccepts
      by_contra hne
      refine hspelling ⟨hsecret, text, htext, ?_, hsame⟩
      intro hdigest
      exact hne (by rw [htext, hdigest])
    · intro hsecret
      have hnot : ¬ signature = "sha256=" ++ rt.hmacSha256 secret body :=
        fun hexpected => hempty ⟨hsecret, hexpected⟩
      refine ⟨fun haccepts => (hjs.mp haccepts).1 hsecret, fun hv => hnot (hvalid.mp hv), ?_⟩
      rw [Bool.eq_false_iff]
      exact fun ht => hnot (hts.mp ht)

end Verifiers

/-- The HMAC of the empty body under the empty key. -/
def emptyDigest : String := "b613679a0814d9ec772f95d778c35fc5ff1697c493715653c6c712144292c5ad"

theorem verifiersAgree_iff_empty :
    VerifiersAgree (signingRuntime emptyDigest) "" "" ("sha256=" ++ emptyDigest) ↔
      ¬ ("" = "" ∧ "sha256=" ++ emptyDigest = "sha256=" ++ emptyDigest) ∧
      ¬ ("" ≠ "" ∧ ∃ text, "sha256=" ++ emptyDigest = "sha256=" ++ text ∧
        OtherSpelling emptyDigest text) :=
  have hhex : IsHexDigest ((signingRuntime emptyDigest).hmacSha256 "" "") := by decide +kernel
  verifiersAgree_iff "" "" ("sha256=" ++ emptyDigest) hhex

/-- Without a secret, intake accepts what anybody can sign. -/
theorem emptySecret_not_verifiersAgree :
    ¬ VerifiersAgree (signingRuntime emptyDigest) "" "" ("sha256=" ++ emptyDigest) := by
  intro h
  exact (h.secret rfl).2.1 (by decide +kernel)

end Admissorium.App.SignatureVerifiers
