import Admissorium.App.SignatureVerifiers

/-!
# The webhook envelope of the local verifier

`src/app/webhook-signature.js` reads the same three headers as intake and the request handler,
with a third way to look them up: it turns whatever a header holds into a text. For headers that
each hold one text the three front doors see the same request, and differ only in what they ask
of it.
-/
namespace Admissorium.App.WebhookEnvelope
set_option autoImplicit false

open JavaScript Policies RegExp WebhookRequest WebhookIntake SignatureVerifiers

/-! ## Headers -/

/-- `String(value)`. -/
def headerText : HeaderValue → String
  | .missing => "undefined"
  | .text s => s
  | .list items => ",".intercalate items

/-- `headers[key]`, as `??` sees it. -/
def ownValue (headers : Headers) (key : String) : Option HeaderValue :=
  (headers.lookup key).filter (· ≠ .missing)

def headerValue (rt : Runtime) (headers : Option Headers) (key : String) : String :=
  match headers with
  | none => ""
  | some headers =>
      match ((ownValue headers key).or (ownValue headers (rt.toLowerCase key))).or
          (ownValue headers (rt.toUpperCase key)) with
      | some value => headerText value
      | none =>
          match headers.find? (fun entry => rt.toLowerCase entry.1 = rt.toLowerCase key) with
          | some found => headerText found.2
          | none => ""

/-! ## Envelopes -/

structure EnvelopeResult extends Js.SignatureResult where
  event : String
  delivery : String
  event_present : Bool
  delivery_id_present : Bool
  deriving DecidableEq

def verifyWebhookEnvelope (rt : Runtime) (headers : Option Headers) (payload secret : String) :
    Except JsError EnvelopeResult := do
  let signature := headerValue rt headers "x-hub-signature-256"
  let event := headerValue rt headers "x-github-event"
  let delivery := headerValue rt headers "x-github-delivery"
  let signatureResult ← Js.verifyWebhookSignature rt payload secret signature
  let event_present : Bool := event ≠ ""
  let delivery_id_present : Bool := delivery ≠ ""
  let accepted := signatureResult.signature_valid && event_present && delivery_id_present
  let reason := signatureResult.reason
  let reason :=
    if signatureResult.signature_valid && !event_present then "missing_event" else reason
  let reason :=
    if signatureResult.signature_valid && event_present && !delivery_id_present
    then "missing_delivery_id" else reason
  let reason := if accepted then "webhook_envelope_valid" else reason
  return { signatureResult with
    event, delivery, event_present, delivery_id_present, accepted, reason }

def writerFlags : List String :=
  ["writer_enabled", "webhook_receiver_enabled", "network_listener_enabled", "token_required",
    "token_persistence_enabled", "check_run_writer_enabled", "pull_request_writer_enabled",
    "issue_writer_enabled", "contents_write_enabled", "allowed_to_mutate_truth"]

def assertNoWebhookWriterSurface (result : Js.SignatureResult) : Except JsError Unit :=
  let violations := writerFlags.filter (fun flag => result.flags.lookup flag ≠ some false)
  if violations.length ≠ 0 then
    .error (.error ("webhook_verifier_writer_surface_violation:" ++ ",".intercalate violations))
  else .ok ()

/-! ## Plain headers -/

/-- Every header holds a text, and no two have one name. -/
structure PlainHeaders (rt : Runtime) (headers : Headers) : Prop where
  texts : ∀ entry ∈ headers, ∃ s, entry.2 = .text s
  apart : (headers.map (fun entry => rt.toLowerCase entry.1)).Nodup

/-- A name in lower case, that is found again from its upper case. -/
structure LowerName (rt : Runtime) (name : String) : Prop where
  lower : rt.toLowerCase name = name
  upper : rt.toLowerCase (rt.toUpperCase name) = name

section Headers
variable {rt : Runtime} {headers : Headers} {name : String}

theorem lowerName_of_ascii (hascii : isAscii name = true) (hlower : asciiLower name = name)
    (hupperAscii : isAscii (asciiUpper name) = true)
    (hupper : asciiLower (asciiUpper name) = name) : LowerName rt name where
  lower := (rt.lower_ascii name hascii).trans hlower
  upper := by rw [rt.upper_ascii name hascii, rt.lower_ascii _ hupperAscii, hupper]

theorem lowerName_of_mem (rt : Runtime) (h : name ∈ webhookHeaderNames) : LowerName rt name := by
  have hall : ∀ name ∈ webhookHeaderNames, isAscii name = true ∧ asciiLower name = name ∧
      isAscii (asciiUpper name) = true ∧ asciiLower (asciiUpper name) = name := by decide +kernel
  obtain ⟨hascii, hlower, hupperAscii, hupper⟩ := hall name h
  exact lowerName_of_ascii hascii hlower hupperAscii hupper

/-- Plain headers have at most one entry of a name. -/
theorem PlainHeaders.unique (h : PlainHeaders rt headers) {entry other : String × HeaderValue}
    (hentry : entry ∈ headers) (hother : other ∈ headers)
    (hname : rt.toLowerCase entry.1 = rt.toLowerCase other.1) : entry = other :=
  List.inj_on_of_nodup_map h.apart hentry hother hname

theorem mem_of_ownValue {value : HeaderValue} (h : ownValue headers name = some value) :
    (name, value) ∈ headers := by
  rw [ownValue, Option.filter_eq_some_iff, List.lookup_eq_some_iff] at h
  obtain ⟨⟨before, rest, rfl, _⟩, _⟩ := h
  exact List.mem_append_right _ List.mem_cons_self

/-- The text of the one entry of a name is what every look-up finds. -/
theorem headerValue_of_mem (h : PlainHeaders rt headers) (hname : LowerName rt name)
    {key text : String} (hentry : (key, .text text) ∈ headers) (hkey : rt.toLowerCase key = name) :
    headerValue rt (some headers) name = text := by
  have hsame : ∀ other value, (other, value) ∈ headers → rt.toLowerCase other = name →
      value = .text text := by
    intro other value hmem hlower
    have heq := h.unique hmem hentry (hlower.trans hkey.symm)
    exact (Prod.mk.inj heq).2
  unfold headerValue
  dsimp only
  split
  case h_1 value hdirect =>
    have hvalue : value = .text text := by
      rw [Option.or_eq_some_iff, Option.or_eq_some_iff] at hdirect
      rcases hdirect with (hown | ⟨_, hown⟩) | ⟨_, hown⟩
      · exact hsame _ _ (mem_of_ownValue hown) hname.lower
      · exact hsame _ _ (mem_of_ownValue hown) (by rw [hname.lower, hname.lower])
      · exact hsame _ _ (mem_of_ownValue hown) hname.upper
    rw [hvalue]
    rfl
  case h_2 =>
    split
    case h_1 found hfind =>
      have hmem := List.mem_of_find?_eq_some hfind
      have hlower := List.find?_some hfind
      rw [decide_eq_true_eq, hname.lower] at hlower
      rw [hsame found.1 found.2 hmem hlower]
      rfl
    case h_2 hfind =>
      have hnot := List.find?_eq_none.mp hfind _ hentry
      rw [decide_eq_true_eq, hname.lower] at hnot
      exact absurd hkey hnot

theorem headerValue_of_forall_ne (hname : LowerName rt name)
    (h : ∀ entry ∈ headers, rt.toLowerCase entry.1 ≠ name) :
    headerValue rt (some headers) name = "" := by
  have hnone : ∀ key, rt.toLowerCase key = name → ownValue headers key = none := by
    intro key hkey
    rw [Option.eq_none_iff_forall_ne_some]
    intro value hvalue
    exact h _ (mem_of_ownValue hvalue) hkey
  have hfind : headers.find? (fun entry => rt.toLowerCase entry.1 = rt.toLowerCase name) = none := by
    rw [List.find?_eq_none]
    intro entry hentry
    rw [decide_eq_true_eq, hname.lower]
    exact h entry hentry
  unfold headerValue
  dsimp only
  rw [hnone _ hname.lower, hnone _ (by rw [hname.lower, hname.lower]), hnone _ hname.upper]
  simp only [Option.or_none, hfind]

theorem lastText_of_mem (h : PlainHeaders rt headers) {key text : String}
    (hentry : (key, .text text) ∈ headers) (hkey : rt.toLowerCase key = name) :
    lastText rt headers name = some text := by
  cases hlast : lastText rt headers name with
  | none =>
      have hnone := List.findSome?_eq_none_iff.mp hlast _ (List.mem_reverse.mpr hentry)
      rw [if_pos hkey] at hnone
      cases hnone
  | some other =>
      obtain ⟨found, hfound, hvalue⟩ := List.exists_of_findSome?_eq_some hlast
      rw [Option.ite_none_right_eq_some] at hvalue
      obtain ⟨hlower, hfirst⟩ := hvalue
      obtain rfl := h.unique (List.mem_reverse.mp hfound) hentry (hlower.trans hkey.symm)
      exact congrArg some (Option.some.inj hfirst).symm

theorem header_of_mem (h : PlainHeaders rt headers) (hname : LowerName rt name) {key text : String}
    (hentry : (key, .text text) ∈ headers) (hkey : rt.toLowerCase key = name) :
    header rt headers name = some text := by
  unfold header
  dsimp only
  split
  case h_1 other value hfind =>
    have hlower := List.find?_some hfind
    rw [decide_eq_true_eq, hname.lower] at hlower
    have heq := h.unique (List.mem_of_find?_eq_some hfind) hentry (hlower.trans hkey.symm)
    rw [(Prod.mk.inj heq).2]
    rfl
  case h_2 hfind =>
    have hnot := List.find?_eq_none.mp hfind _ hentry
    rw [decide_eq_true_eq, hname.lower] at hnot
    exact absurd hkey hnot

/-- Plain headers are read alike by the three front doors. -/
theorem lookups_agree (h : PlainHeaders rt headers) (hname : LowerName rt name) :
    headerValue rt (some headers) name = (lastText rt headers name).getD "" ∧
      header rt headers name = lastText rt headers name := by
  by_cases hfound : ∃ entry ∈ headers, rt.toLowerCase entry.1 = name
  · obtain ⟨⟨key, value⟩, hentry, hkey⟩ := hfound
    obtain ⟨text, rfl⟩ := h.texts _ hentry
    rw [lastText_of_mem h hentry hkey, header_of_mem h hname hentry hkey]
    exact ⟨headerValue_of_mem h hname hentry hkey, rfl⟩
  · have hnone : ∀ entry ∈ headers, rt.toLowerCase entry.1 ≠ name :=
      fun entry hentry hkey => hfound ⟨entry, hentry, hkey⟩
    have hlast : lastText rt headers name = none := by
      rw [lastText, List.findSome?_eq_none_iff]
      intro entry hentry
      rw [if_neg (hnone entry (List.mem_reverse.mp hentry))]
    have hfind : headers.find? (fun entry => rt.toLowerCase entry.1 = rt.toLowerCase name) =
        none := by
      rw [List.find?_eq_none]
      intro entry hentry
      rw [decide_eq_true_eq, hname.lower]
      exact hnone entry hentry
    rw [hlast, headerValue_of_forall_ne hname hnone, header, hfind]
    exact ⟨rfl, rfl⟩

end Headers

/-! ## The front doors -/

section Doors
variable {rt : Runtime} {parse : JsonParse} {headers : Headers} {body secret : String}

/-- The local verifier accepts the envelope of an event and a delivery. -/
def JsAcceptsAs (rt : Runtime) (headers : Headers) (body secret event delivery : String) : Prop :=
  ∃ result, verifyWebhookEnvelope rt (some headers) body secret = .ok result ∧
    result.accepted = true ∧ result.event = event ∧ result.delivery = delivery

/-- The digest of a signature: what follows the name of the algorithm. -/
def digestOf (signature : String) : String :=
  Text.trim (String.ofList (signature.toList.drop "sha256=".length))

/-- The bytes of a signature are those that are signed. -/
def sameBytes (rt : Runtime) (body secret signature : String) : Bool :=
  hexBytes (digestOf signature).toList = hexBytes (rt.hmacSha256 secret body).toList

def reasonOf (rt : Runtime) (body secret signature : String) : String :=
  if secret = "" then "missing_webhook_secret"
  else if signature = "" then "missing_signature"
  else if Text.startsWith signature "sha256=" = false then "unsupported_signature_algorithm"
  else if digestPattern.test (digestOf signature) = false then "malformed_signature"
  else if sameBytes rt body secret signature then "signature_valid"
  else "signature_mismatch"

/-- What the signature verifier answers: its reason, and whether the reason is that of a valid
signature. -/
theorem verifyWebhookSignature_eq (signature : String) :
    Js.verifyWebhookSignature rt body secret signature =
      .ok { signature_valid := reasonOf rt body secret signature = "signature_valid"
            accepted := reasonOf rt body secret signature = "signature_valid"
            reason := reasonOf rt body secret signature } := by
  unfold Js.verifyWebhookSignature Js.signWebhookPayload reasonOf
  by_cases hsecret : secret = ""
  · rw [if_pos hsecret, if_pos hsecret]
    rfl
  by_cases hsignature : signature = ""
  · simp only [if_neg hsecret, if_pos hsignature]
    rfl
  simp only [if_neg hsecret, if_neg hsignature]
  cases hstart : Text.startsWith signature "sha256=" with
  | false => rfl
  | true =>
      have hdrop : ("sha256=" ++ rt.hmacSha256 secret body).toList.drop "sha256=".length =
          (rt.hmacSha256 secret body).toList := by
        have hlength : "sha256=".length = "sha256=".toList.length := rfl
        rw [String.toList_append, hlength, List.drop_left]
      cases hshape : digestPattern.test (digestOf signature) with
      | false =>
          rw [digestOf] at hshape
          simp only [hshape]
          rfl
      | true =>
          have hshape' := hshape
          rw [digestOf] at hshape'
          simp only [hshape', sameBytes, digestOf, Bool.not_true, Bool.false_eq_true,
            Bool.true_eq_false, if_false, ok_bind, hdrop]
          by_cases hsame : hexBytes (Text.trim (String.ofList
              (signature.toList.drop "sha256=".length))).toList =
            hexBytes (rt.hmacSha256 secret body).toList
          · simp only [hsame, decide_true, Bool.and_self, if_true]
            rfl
          · simp only [hsame, decide_false, Bool.and_false, Bool.false_eq_true, if_false]
            rfl

/-- The signature verifier accepts exactly the signatures it calls valid. -/
theorem signature_valid_eq_accepted {signature : String} {result : Js.SignatureResult}
    (h : Js.verifyWebhookSignature rt body secret signature = .ok result) :
    result.signature_valid = result.accepted := by
  rw [verifyWebhookSignature_eq] at h
  cases h
  rfl

theorem jsAcceptsAs_iff {event delivery : String} :
    JsAcceptsAs rt headers body secret event delivery ↔
      Js.Accepts rt body secret (headerValue rt (some headers) "x-hub-signature-256") ∧
      (headerValue rt (some headers) "x-github-event" = event ∧ event ≠ "") ∧
      headerValue rt (some headers) "x-github-delivery" = delivery ∧ delivery ≠ "" := by
  constructor
  · intro h
    obtain ⟨result, hrun, haccepted, rfl, rfl⟩ := h
    obtain ⟨signatureResult, hsignature, hresult⟩ := bind_eq_ok.mp hrun
    cases hresult
    simp only [Bool.and_eq_true, decide_eq_true_eq] at haccepted
    obtain ⟨⟨hvalid, hevent⟩, hdelivery⟩ := haccepted
    rw [signature_valid_eq_accepted hsignature] at hvalid
    exact ⟨⟨signatureResult, hsignature, hvalid⟩, ⟨rfl, hevent⟩, rfl, hdelivery⟩
  · intro h
    obtain ⟨⟨signatureResult, hsignature, hvalid⟩, ⟨rfl, hevent⟩, rfl, hdelivery⟩ := h
    rw [← signature_valid_eq_accepted hsignature] at hvalid
    refine ⟨_, bind_eq_ok.mpr ⟨signatureResult, hsignature, rfl⟩, ?_, rfl, rfl⟩
    simp only [Bool.and_eq_true, decide_eq_true_eq]
    exact ⟨⟨hvalid, hevent⟩, hdelivery⟩

/-- A header with a text in it, told by its text. -/
theorem lastText_eq_some_iff (h : PlainHeaders rt headers) {name : String} (hname : LowerName rt name)
    {text : String} (hne : text ≠ "") :
    lastText rt headers name = some text ↔ headerValue rt (some headers) name = text := by
  rw [(lookups_agree h hname).1]
  cases lastText rt headers name with
  | none => exact iff_of_false (fun he => by cases he) (fun he => hne he.symm)
  | some other => rw [Option.some.injEq, Option.getD_some]

/-- What the signature header holds when intake takes it, against what the local verifier takes. -/
theorem signature_iff (hhex : IsHexDigest (rt.hmacSha256 secret body)) (signature : String) :
    signature = expectedSignature rt secret body ∧ secret ≠ "" ↔
      Js.Accepts rt body secret signature ∧ ¬ ∃ text, signature = "sha256=" ++ text ∧
        OtherSpelling (rt.hmacSha256 secret body) text := by
  rw [Js.accepts_iff body secret signature hhex]
  constructor
  · intro h
    obtain ⟨rfl, hsecret⟩ := h
    refine ⟨⟨hsecret, _, rfl, ?_⟩, fun hother => ?_⟩
    · rw [trim_of_isHexDigest hhex, asciiLower_of_isHexDigest hhex]
    · obtain ⟨text, htext, hdiffers, _⟩ := hother
      exact hdiffers ((String.append_right_inj _).mp htext).symm
  · intro h
    obtain ⟨⟨hsecret, text, rfl, hdigest⟩, hplain⟩ := h
    refine ⟨?_, hsecret⟩
    by_contra hne
    exact hplain ⟨text, rfl, fun he => hne (he ▸ rfl), hdigest⟩

/-- With plain headers, intake accepts a request as an event and a delivery when the handler
verifies it, the event is one of those allowed and neither is empty. Under a secret, that is when
the local verifier accepts the envelope, the event is allowed, the body is JSON and the digest is
written the one way that is signed. -/
theorem front_doors_agree (hhex : IsHexDigest (rt.hmacSha256 secret body))
    (h : PlainHeaders rt headers) (handled : WebhookRequestEnvelope) (env : Option Env) :
    (AcceptsAs (parseGitHubWebhookEnvelope rt parse
        ⟨normalizeGitHubWebhookHeaders rt headers, body, secret, none⟩) handled ↔
      Verified rt parse ⟨headers, body, secret, env⟩ handled ∧
        handled.event ∈ defaultAllowedEvents ∧ handled.delivery ≠ "") ∧
    (AcceptsAs (parseGitHubWebhookEnvelope rt parse
        ⟨normalizeGitHubWebhookHeaders rt headers, body, secret, none⟩) handled ∧ secret ≠ "" ↔
      JsAcceptsAs rt headers body secret handled.event handled.delivery ∧
        handled.event ∈ defaultAllowedEvents ∧ parse body = .ok handled.payload ∧
        ¬ ∃ text, headerValue rt (some headers) "x-hub-signature-256" = "sha256=" ++ text ∧
          OtherSpelling (rt.hmacSha256 secret body) text) := by
  have hnames : ∀ name ∈ webhookHeaderNames, LowerName rt name := fun _ => lowerName_of_mem rt
  have hsignatureName := hnames "x-hub-signature-256" (by decide)
  have heventName := hnames "x-github-event" (by decide)
  have hdeliveryName := hnames "x-github-delivery" (by decide)
  have hallowed : handled.event ∈ defaultAllowedEvents → handled.event ≠ "" := by
    intro hmem he
    rw [he] at hmem
    exact absurd hmem (by decide)
  have hintake := parse_acceptsAs_iff parse hhex (normalizeGitHubWebhookHeaders rt headers) handled
  rw [normalizeGitHubWebhookHeaders_apply rt headers (by decide),
    normalizeGitHubWebhookHeaders_apply rt headers (by decide),
    normalizeGitHubWebhookHeaders_apply rt headers (by decide)] at hintake
  constructor
  · rw [hintake, ← (lookups_agree h hsignatureName).2, ← (lookups_agree h heventName).2,
      ← (lookups_agree h hdeliveryName).2]
    constructor
    · intro haccepts
      obtain ⟨hsignature, ⟨hevent, _⟩, ⟨hdelivery, hne⟩, hlisted, hparse⟩ := haccepts
      exact ⟨⟨hevent, hdelivery, hsignature, hparse⟩, hlisted, hne⟩
    · intro hverified
      obtain ⟨hv, hlisted, hne⟩ := hverified
      exact ⟨hv.signature, ⟨hv.event, hallowed hlisted⟩, ⟨hv.delivery, hne⟩, hlisted, hv.payload⟩
  · have hexpected : expectedSignature rt secret body ≠ "" := by
      intro he
      have hlength := congrArg (fun s => s.toList.length) he
      simp [expectedSignature] at hlength
    rw [hintake, lastText_eq_some_iff h hsignatureName hexpected, jsAcceptsAs_iff]
    have hsignature := signature_iff hhex (headerValue rt (some headers) "x-hub-signature-256")
    constructor
    · intro haccepts
      obtain ⟨⟨hsigned, ⟨hevent, hne⟩, ⟨hdelivery, hne'⟩, hlisted, hparse⟩, hsecret⟩ := haccepts
      obtain ⟨hjs, hspelling⟩ := hsignature.mp ⟨hsigned, hsecret⟩
      exact ⟨⟨hjs, ⟨(lastText_eq_some_iff h heventName hne).mp hevent, hne⟩,
        (lastText_eq_some_iff h hdeliveryName hne').mp hdelivery, hne'⟩, hlisted, hparse, hspelling⟩
    · intro haccepts
      obtain ⟨⟨hjs, ⟨hevent, hne⟩, hdelivery, hne'⟩, hlisted, hparse, hspelling⟩ := haccepts
      obtain ⟨hsigned, hsecret⟩ := hsignature.mpr ⟨hjs, hspelling⟩
      exact ⟨⟨hsigned, ⟨(lastText_eq_some_iff h heventName hne).mpr hevent, hne⟩,
        ⟨(lastText_eq_some_iff h hdeliveryName hne').mpr hdelivery, hne'⟩, hlisted, hparse⟩, hsecret⟩

end Doors

/-- The push of the request handler, with one text for each header. -/
def plainPush : Headers :=
  [("X-GitHub-Event", .text "push"), ("X-GitHub-Delivery", .text "1"),
    ("X-Hub-Signature-256", .text ("sha256=" ++ pushDigest))]

/-- All three doors are open to it. -/
theorem front_doors_agree_plainPush :
    AcceptsAs (parseGitHubWebhookEnvelope (signingRuntime pushDigest) (parseOf pushBody pushPayload)
        ⟨normalizeGitHubWebhookHeaders (signingRuntime pushDigest) plainPush, pushBody, "secret",
          none⟩) ⟨"push", "1", pushPayload⟩ ∧
      JsAcceptsAs (signingRuntime pushDigest) plainPush pushBody "secret" "push" "1" := by
  have hplain : PlainHeaders (signingRuntime pushDigest) plainPush := by
    refine ⟨?_, by decide +kernel⟩
    simp [plainPush]
  have hverified : Verified (signingRuntime pushDigest) (parseOf pushBody pushPayload)
      ⟨plainPush, pushBody, "secret", none⟩ ⟨"push", "1", pushPayload⟩ :=
    ⟨by decide +kernel, by decide +kernel, by decide +kernel, rfl⟩
  obtain ⟨hhandler, hlocal⟩ := @front_doors_agree _ (parseOf pushBody pushPayload) _ pushBody
    "secret" (by decide +kernel) hplain ⟨"push", "1", pushPayload⟩ none
  have hintake := hhandler.mpr ⟨hverified, by decide, by decide⟩
  exact ⟨hintake, (hlocal.mp ⟨hintake, by decide⟩).1⟩

end Admissorium.App.WebhookEnvelope
