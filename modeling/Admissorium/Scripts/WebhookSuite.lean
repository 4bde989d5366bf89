import Admissorium.App.WebhookEnvelope
import Admissorium.Scripts.SchemaValidation

/-!
# The webhook suite

`v020/verify-webhook-signature` signs a payload of its own, verifies six envelopes around it and
exits with 1 when one of the answers is not the expected one. None ever is: whatever the HMAC of
the payload, the six answers are those the script expects.
-/
namespace Admissorium.Scripts
set_option autoImplicit false

open JavaScript Json Files Signing
open App.WebhookRequest App.WebhookIntake App.SignatureVerifiers App.WebhookEnvelope

/-! ## The script -/

def webhookSecret : String := "ADMISSORIUM_LOCAL_TEST_WEBHOOK_SECRET_NOT_PRODUCTION"

def webhookPayload (rt : Runtime) : String :=
  (Json.stringify rt (.obj [("action", .str "opened"),
    ("pull_request", .obj [("number", .num 20), ("head", .obj [("sha", .str "abc123")])]),
    ("repository", .obj [("full_name", .str "Verifrax/ADMISSORIUM")])])).getD "undefined"

structure WebhookCase where
  name : String
  headers : Headers
  expected_accepted : Bool
  expected_reason : String

def signatureHeader (signature : String) : String × HeaderValue :=
  ("x-hub-signature-256", .text signature)

def eventHeader : String × HeaderValue := ("x-github-event", .text "pull_request")

def deliveryHeader (delivery : String) : String × HeaderValue :=
  ("x-github-delivery", .text delivery)

/-- `validSignature.slice(0, -1) + (validSignature.endsWith("0") ? "1" : "0")`. -/
def tampered (validSignature : String) : String :=
  String.ofList validSignature.toList.dropLast ++
    (if Text.endsWith validSignature "0" then "1" else "0")

def webhookCases (validSignature : String) : List WebhookCase :=
  [⟨"valid_pull_request_webhook",
      [signatureHeader validSignature, eventHeader, deliveryHeader "delivery-0001"],
      true, "webhook_envelope_valid"⟩,
    ⟨"bad_signature_rejected",
      [signatureHeader (tampered validSignature), eventHeader, deliveryHeader "delivery-0002"],
      false, "signature_mismatch"⟩,
    ⟨"missing_signature_rejected", [eventHeader, deliveryHeader "delivery-0003"],
      false, "missing_signature"⟩,
    ⟨"unsupported_algorithm_rejected",
      [signatureHeader "sha1=ffffffffffffffffffffffffffffffffffffffff", eventHeader,
        deliveryHeader "delivery-0004"],
      false, "unsupported_signature_algorithm"⟩,
    ⟨"missing_delivery_id_rejected", [signatureHeader validSignature, eventHeader],
      false, "missing_delivery_id"⟩,
    ⟨"missing_event_rejected", [signatureHeader validSignature, deliveryHeader "delivery-0005"],
      false, "missing_event"⟩]

/-- The flags a result is asked for. -/
def checkedFlags : List String :=
  ["writer_enabled", "webhook_receiver_enabled", "network_listener_enabled", "token_required",
    "token_persistence_enabled", "allowed_to_mutate_truth"]

def casePasses (item : WebhookCase) (result : EnvelopeResult) : Bool :=
  result.accepted = item.expected_accepted && result.reason = item.expected_reason &&
    checkedFlags.all (fun flag => result.flags.lookup flag = some false)

structure WebhookResult where
  item : WebhookCase
  result : EnvelopeResult
  pass : Bool

def flagValue (result : EnvelopeResult) (flag : String) : Value :=
  ((result.flags.lookup flag).map .bool).getD .undefined

def WebhookResult.fields (r : WebhookResult) : Fields :=
  [("name", .str r.item.name), ("pass", .bool r.pass),
    ("expected_accepted", .bool r.item.expected_accepted),
    ("actual_accepted", .bool r.result.accepted), ("expected_reason", .str r.item.expected_reason),
    ("actual_reason", .str r.result.reason), ("signature_valid", .bool r.result.signature_valid)] ++
  checkedFlags.map (fun flag => (flag, flagValue r.result flag))

def runCase (rt : Runtime) (item : WebhookCase) : Except JsError WebhookResult := do
  let result ← verifyWebhookEnvelope rt (some item.headers) (webhookPayload rt) webhookSecret
  assertNoWebhookWriterSurface result.toSignatureResult
  return ⟨item, result, casePasses item result⟩

def webhookResults (rt : Runtime) : Except JsError (List WebhookResult) := do
  let validSignature ← Js.signWebhookPayload rt (webhookPayload rt) webhookSecret
  (webhookCases validSignature).mapM (runCase rt)

def failedCases (results : List WebhookResult) : List WebhookResult :=
  results.filter (fun r => !r.pass)

def webhookCounts (results : List WebhookResult) : Fields :=
  [("total", .num (results.length : Nat)),
    ("passed", .num (results.length - (failedCases results).length : Nat)),
    ("failed", .num ((failedCases results).length : Nat))]

def webhookReport (results : List WebhookResult) (generated : Instant) : Fields :=
  [("report_type", .str "ADMISSORIUM_V020_WEBHOOK_SIGNATURE_VERIFICATION"),
    ("schema_version", .str "1.0.0"),
    ("state", .str (if (failedCases results).length = 0
      then "ADMISSORIUM_V020_WEBHOOK_SIGNATURE_VERIFICATION_PASS"
      else "ADMISSORIUM_V020_WEBHOOK_SIGNATURE_VERIFICATION_FAIL")),
    ("generated_at", .str generated.toISOString), ("truth_warning", .str "NOT_TRUTH_SOURCE"),
    ("secret_posture", .str "LOCAL_TEST_SECRET_ONLY_NOT_PRODUCTION"),
    ("writer_enabled", .bool false), ("webhook_receiver_enabled", .bool false),
    ("network_listener_enabled", .bool false), ("token_required", .bool false),
    ("token_persistence_enabled", .bool false), ("check_run_writer_enabled", .bool false),
    ("pull_request_writer_enabled", .bool false), ("issue_writer_enabled", .bool false),
    ("contents_write_enabled", .bool false), ("allowed_to_mutate_truth", .bool false)] ++
  webhookCounts results ++ [("results", .arr (results.map (fun r => .obj r.fields)))]

/-- The history directory, as the script joins it. -/
def webhookHistoryDir (generated : Instant) : String :=
  join ["reports/history", SnapshotKind.webhookSignature.dirName generated]

/-- `src/v020/verify-webhook-signature.js`. -/
def verifyWebhookSignatures (m : Machine) (generated : Instant) : Fs Outcome := do
  let results ← orThrow (webhookResults m.rt)
  mkdirSync "reports/current"
  mkdirSync "reports/history"
  saveJson m "reports/current/admissorium-v020-webhook-signature.json"
    (.obj (webhookReport results generated))
  mkdirSync (webhookHistoryDir generated)
  saveJson m (join [webhookHistoryDir generated, "report.json"])
    (.obj (webhookReport results generated))
  return if (failedCases results).length ≠ 0 then ⟨"", 1⟩
    else ⟨"ADMISSORIUM_V020_WEBHOOK_SIGNATURE_VERIFICATION_PASS=true\n" ++
      storedJson m (.obj (webhookCounts results)), 0⟩

/-! ## The six answers -/

section Answers
variable {rt : Runtime} {body secret : String} {headers : Headers} {name : String}

/-- Headers that are spelled as the script spells them. -/
structure CaseHeaders (headers : Headers) : Prop where
  texts : ∀ entry ∈ headers, ∃ s, entry.2 = .text s
  names : ∀ entry ∈ headers, entry.1 ∈ webhookHeaderNames
  nodup : (headers.map Prod.fst).Nodup

theorem CaseHeaders.plain (h : CaseHeaders headers) (rt : Runtime) : PlainHeaders rt headers where
  texts := h.texts
  apart := by
    have hsame : headers.map (fun entry => rt.toLowerCase entry.1) = headers.map Prod.fst :=
      List.map_congr_left (fun entry hentry => (lowerName_of_mem rt (h.names entry hentry)).lower)
    rw [hsame]
    exact h.nodup

theorem headerValue_lookup (h : CaseHeaders headers) (hname : name ∈ webhookHeaderNames) :
    headerValue rt (some headers) name = ((headers.lookup name).map headerText).getD "" := by
  cases hlookup : headers.lookup name with
  | none =>
      apply headerValue_of_forall_ne (lowerName_of_mem rt hname)
      intro entry hentry hlower
      rw [(lowerName_of_mem rt (h.names entry hentry)).lower] at hlower
      have hne := List.lookup_eq_none_iff.mp hlookup entry hentry
      rw [hlower, bne_self_eq_false] at hne
      cases hne
  | some value =>
      have hmem := (lookup_eq_some_iff_mem h.nodup name value).mp hlookup
      obtain ⟨text, rfl⟩ := h.texts _ hmem
      exact headerValue_of_mem (h.plain rt) (lowerName_of_mem rt hname) hmem
        (lowerName_of_mem rt hname).lower

/-- A well-written digest is valid when it is the one of the body, and a mismatch otherwise. -/
theorem reasonOf_hex (hsecret : secret ≠ "") (hhex : IsHexDigest (rt.hmacSha256 secret body))
    {text : String} (htext : IsHexDigest text) :
    reasonOf rt body secret ("sha256=" ++ text) =
      if text = rt.hmacSha256 secret body then "signature_valid" else "signature_mismatch" := by
  have hne : "sha256=" ++ text ≠ "" := by
    intro h
    have hlength := congrArg (fun s => s.toList.length) h
    simp at hlength
  have hstart := (exists_prefixed_iff ("sha256=" ++ text)).mpr ⟨text, rfl⟩
  have hdigest : digestOf ("sha256=" ++ text) = text := by
    have hlength : "sha256=".length = "sha256=".toList.length := rfl
    rw [digestOf, String.toList_append, hlength, List.drop_left, String.ofList_toList,
      trim_of_isHexDigest htext]
  have hsame : sameBytes rt body secret ("sha256=" ++ text) = true ↔
      text = rt.hmacSha256 secret body := by
    have hbytes := sameBytes_iff hhex text
    rw [asciiLower_of_isHexDigest htext] at hbytes
    rw [sameBytes, hdigest, decide_eq_true_eq, ← hbytes]
    exact (and_iff_right (digestPattern_of_hex htext)).symm
  rw [reasonOf, if_neg hsecret, if_neg hne, hstart, hdigest, digestPattern_of_hex htext,
    if_neg Bool.noConfusion,
    if_neg Bool.noConfusion]
  simp only [hsame]

/-- The answer to an envelope, from what the signature verifier says and the other two headers. -/
def envelopeOf (reason event delivery : String) : EnvelopeResult :=
  let valid : Bool := reason = "signature_valid"
  let accepted := valid && event ≠ "" && delivery ≠ ""
  { signature_valid := valid
    event
    delivery
    event_present := event ≠ ""
    delivery_id_present := delivery ≠ ""
    accepted
    reason :=
      if accepted then "webhook_envelope_valid"
      else if valid && event ≠ "" then "missing_delivery_id"
      else if valid then "missing_event"
      else reason }

theorem verifyWebhookEnvelope_eq (headers : Option Headers) :
    verifyWebhookEnvelope rt headers body secret =
      .ok (envelopeOf (reasonOf rt body secret (headerValue rt headers "x-hub-signature-256"))
        (headerValue rt headers "x-github-event") (headerValue rt headers "x-github-delivery")) := by
  rw [verifyWebhookEnvelope, verifyWebhookSignature_eq, ok_bind]
  generalize reasonOf rt body secret _ = reason
  generalize headerValue rt headers "x-github-event" = event
  generalize headerValue rt headers "x-github-delivery" = delivery
  by_cases hvalid : reason = "signature_valid" <;> by_cases hevent : event = "" <;>
    by_cases hdelivery : delivery = "" <;> simp [envelopeOf, hvalid, hevent, hdelivery] <;> rfl

/-- The digit that takes the place of the last one. -/
def otherDigit (last : Char) : Char := if last = '0' then '1' else '0'

/-- A digest with another last digit is a digest, and another one. -/
theorem tampered_eq {digest : String} (h : IsHexDigest digest) :
    ∃ other, tampered ("sha256=" ++ digest) = "sha256=" ++ other ∧ IsHexDigest other ∧
      other ≠ digest := by
  have hne : digest.toList ≠ [] := List.ne_nil_of_length_eq_add_one h.1
  obtain ⟨front, last, hdigits⟩ : ∃ front last, digest.toList = front ++ [last] :=
    ⟨_, _, (List.dropLast_append_getLast hne).symm⟩
  have htext : ("sha256=" ++ digest).toList = "sha256=".toList ++ front ++ [last] := by
    rw [String.toList_append, hdigits, List.append_assoc]
  have hends : Text.endsWith ("sha256=" ++ digest) "0" = true ↔ '0' = last := by
    rw [Text.endsWith, List.isSuffixOf_iff_suffix, htext]
    exact List.singleton_suffix_append_singleton_iff
  have hreplaced : (if Text.endsWith ("sha256=" ++ digest) "0" then "1" else "0") =
      String.ofList [otherDigit last] := by
    by_cases hzero : '0' = last
    · rw [if_pos (hends.mpr hzero), otherDigit, if_pos hzero.symm]
    · rw [if_neg (fun hc => hzero (hends.mp hc)), otherDigit, if_neg (fun hc => hzero hc.symm)]
  refine ⟨String.ofList (front ++ [otherDigit last]), ?_, ⟨?_, ?_⟩, ?_⟩
  · rw [tampered, hreplaced, htext, List.dropLast_concat]
    apply String.toList_inj.mp
    simp only [String.toList_append, String.toList_ofList, List.append_assoc]
  · have hlength := h.1
    rw [hdigits] at hlength
    rw [String.toList_ofList]
    simpa using hlength
  · have hall := h.2
    rw [hdigits, List.forall_mem_append] at hall
    rw [String.toList_ofList, List.forall_mem_append, List.forall_mem_singleton]
    refine ⟨hall.1, Or.inl ?_⟩
    rw [otherDigit]
    split <;> decide
  · intro he
    have hlist := congrArg String.toList he
    rw [String.toList_ofList, hdigits, List.append_right_inj, List.singleton_inj, otherDigit] at hlist
    split at hlist
    case isTrue hzero =>
      rw [hzero] at hlist
      exact absurd hlist (by decide)
    case isFalse hnot => exact hnot hlist.symm

/-- The text of a header of a case. -/
def caseText (headers : Headers) (name : String) : String :=
  ((headers.lookup name).map headerText).getD ""

/-- A case passes when its signature has the reason that leads to the expected answer. -/
theorem exists_runCase {item : WebhookCase} {reason : String} (hheaders : CaseHeaders item.headers)
    (hreason : reasonOf rt (webhookPayload rt) webhookSecret
      (caseText item.headers "x-hub-signature-256") = reason)
    (haccepted : (envelopeOf reason (caseText item.headers "x-github-event")
      (caseText item.headers "x-github-delivery")).accepted = item.expected_accepted)
    (hexpected : (envelopeOf reason (caseText item.headers "x-github-event")
      (caseText item.headers "x-github-delivery")).reason = item.expected_reason) :
    ∃ r, runCase rt item = .ok r ∧ r.pass = true := by
  have hsurface : ∀ event delivery,
      assertNoWebhookWriterSurface (envelopeOf reason event delivery).toSignatureResult = .ok () :=
    fun _ _ => rfl
  let result := envelopeOf reason (caseText item.headers "x-github-event")
    (caseText item.headers "x-github-delivery")
  have henvelope : verifyWebhookEnvelope rt (some item.headers) (webhookPayload rt) webhookSecret =
      .ok result := by
    rw [verifyWebhookEnvelope_eq, headerValue_lookup hheaders (by decide),
      headerValue_lookup hheaders (by decide), headerValue_lookup hheaders (by decide)]
    show Except.ok (envelopeOf (reasonOf rt (webhookPayload rt) webhookSecret
      (caseText item.headers "x-hub-signature-256")) (caseText item.headers "x-github-event")
      (caseText item.headers "x-github-delivery")) = _
    rw [hreason]
  have hflags : checkedFlags.all (fun flag => result.flags.lookup flag = some false) = true := rfl
  refine ⟨⟨item, result, casePasses item result⟩, ?_, ?_⟩
  · rw [runCase, henvelope, ok_bind, hsurface, ok_bind]
    rfl
  · show casePasses item result = true
    rw [casePasses, hflags, haccepted, hexpected]
    simp only [decide_true, Bool.and_self]

/-- The six answers are the expected ones. -/
theorem exists_webhookResults
    (hhex : IsHexDigest (rt.hmacSha256 webhookSecret (webhookPayload rt))) :
    ∃ results, webhookResults rt = .ok results ∧ failedCases results = [] := by
  have hsecret : webhookSecret ≠ "" := by decide
  obtain ⟨other, htampered, hother, hdiffers⟩ := tampered_eq hhex
  have hvalid := reasonOf_hex hsecret hhex hhex
  rw [if_pos rfl] at hvalid
  have hmismatch := reasonOf_hex hsecret hhex hother
  rw [if_neg hdiffers] at hmismatch
  have hmissing : reasonOf rt (webhookPayload rt) webhookSecret "" = "missing_signature" := by
    rw [reasonOf, if_neg hsecret, if_pos rfl]
  have hunsupported : reasonOf rt (webhookPayload rt) webhookSecret
      "sha1=ffffffffffffffffffffffffffffffffffffffff" = "unsupported_signature_algorithm" := by
    rw [reasonOf, if_neg hsecret, if_neg (by decide), if_pos (by decide)]
  have hsigned : Js.signWebhookPayload rt (webhookPayload rt) webhookSecret =
      .ok ("sha256=" ++ rt.hmacSha256 webhookSecret (webhookPayload rt)) := if_neg hsecret
  have hitems : ∀ item ∈ webhookCases ("sha256=" ++ rt.hmacSha256 webhookSecret (webhookPayload rt)),
      ∃ r, runCase rt item = .ok r ∧ r.pass = true := by
    have hheaders : ∀ item ∈ webhookCases ("sha256=" ++ rt.hmacSha256 webhookSecret
        (webhookPayload rt)), CaseHeaders item.headers := by
      intro item hitem
      simp only [webhookCases, List.mem_cons, List.not_mem_nil, or_false] at hitem
      rcases hitem with rfl | rfl | rfl | rfl | rfl | rfl <;>
        exact ⟨by simp [signatureHeader, eventHeader, deliveryHeader],
          by simp [signatureHeader, eventHeader, deliveryHeader, webhookHeaderNames],
          by simp [signatureHeader, eventHeader, deliveryHeader]⟩
    rw [webhookCases, htampered] at hheaders ⊢
    simp only [List.forall_mem_cons, List.not_mem_nil, false_imp_iff, implies_true, and_true] at hheaders ⊢
    obtain ⟨h1, h2, h3, h4, h5, h6⟩ := hheaders
    exact ⟨exists_runCase h1 hvalid rfl rfl, exists_runCase h2 hmismatch rfl rfl,
      exists_runCase h3 hmissing rfl rfl, exists_runCase h4 hunsupported rfl rfl,
      exists_runCase h5 hvalid rfl rfl, exists_runCase h6 hvalid rfl rfl⟩
  have hran : ∀ item ∈ webhookCases ("sha256=" ++ rt.hmacSha256 webhookSecret (webhookPayload rt)),
      ∃ r, runCase rt item = .ok r := by
    intro item hitem
    obtain ⟨r, hr, _⟩ := hitems item hitem
    exact ⟨r, hr⟩
  obtain ⟨results, hresults⟩ := exists_mapM_eq_ok hran
  refine ⟨results, ?_, ?_⟩
  · rw [webhookResults, hsigned, ok_bind, hresults]
  · rw [failedCases, List.filter_eq_nil_iff]
    intro r hr
    obtain ⟨item, hitem, hrun⟩ := (mem_mapM_iff hresults r).mp hr
    obtain ⟨same, hsame, hpass⟩ := hitems item hitem
    obtain rfl := Except.ok.inj (hsame.symm.trans hrun)
    rw [hpass]
    decide

end Answers

/-! ## Runs -/

section Runs
variable {m : Machine} {fs after : FileSystem} {generated : Instant} {outcome : Outcome}

def webhookTasks (m : Machine) (generated : Instant) (results : List WebhookResult) :
    List FileTask :=
  [.make "reports/current", .make "reports/history",
    .write (currentPath "admissorium-v020-webhook-signature")
      (storedJson m (.obj (webhookReport results generated))),
    .make (webhookHistoryDir generated),
    .write (join [webhookHistoryDir generated, "report.json"])
      (storedJson m (.obj (webhookReport results generated)))]

def webhookOutcome (m : Machine) (results : List WebhookResult) : Outcome :=
  if (failedCases results).length ≠ 0 then ⟨"", 1⟩
  else ⟨"ADMISSORIUM_V020_WEBHOOK_SIGNATURE_VERIFICATION_PASS=true\n" ++
    storedJson m (.obj (webhookCounts results)), 0⟩

theorem stores_webhookTasks (cwd : Place) (results : List WebhookResult) :
    Stores cwd "admissorium-v020-webhook-signature" .webhookSignature generated ["report.json"]
      (webhookTasks m generated results) := by
  have hdir : resolve cwd (webhookHistoryDir generated) = snapshotPlace cwd .webhookSignature generated :=
    resolve_join cwd (by decide) (isName_dirName _ _)
  have hnul : hasNul (webhookHistoryDir generated) = false :=
    hasNul_join (by decide) (hasNul_dirName _ _)
  have hreport : resolve cwd (join [webhookHistoryDir generated, "report.json"]) =
      "report.json" :: snapshotPlace cwd .webhookSignature generated := by
    have hne : webhookHistoryDir generated ≠ "" := join_ne_empty _
    have hfile : IsName "report.json" := by decide
    rw [resolve_join cwd hne hfile, hdir]
  have hname : IsName ("admissorium-v020-webhook-signature" ++ ".json") := by decide
  constructor
  · refine ⟨by decide, by decide, by decide, ⟨_, _, ?_, resolve_currentPath hname⟩, hnul,
      hasNul_join hnul (by decide), ⟨_, _, ?_, hreport⟩, trivial⟩
    · exact List.mem_cons_self
    · rw [hdir]
      exact List.mem_append_right _ List.mem_cons_self
  · exact List.forall_mem_cons.mpr ⟨Or.inl rfl, List.forall_mem_cons.mpr ⟨Or.inr (Or.inl rfl),
      List.forall_mem_singleton.mpr (Or.inr (Or.inr hdir))⟩⟩
  · exact List.mem_cons_self
  · exact List.mem_cons_of_mem _ (List.mem_cons_of_mem _ (List.mem_singleton.mpr hdir.symm))
  · simp only [webhookTasks, writtenBy, resolve_currentPath hname, hreport, List.map_cons,
      List.map_nil]

theorem verifyWebhookSignatures_eq (m : Machine) (generated : Instant) :
    verifyWebhookSignatures m generated = orThrow (webhookResults m.rt) >>= fun results =>
      runTasks (webhookTasks m generated results) >>= fun _ => pure (webhookOutcome m results) := by
  simp only [verifyWebhookSignatures, webhookTasks, runTasks, FileTask.run, saveJson, bind_assoc,
    pure_bind]
  rfl

theorem verifyWebhookSignatures_eq_ok_iff :
    verifyWebhookSignatures m generated fs = .ok outcome after ↔
      ∃ results, webhookResults m.rt = .ok results ∧
        runTasks (webhookTasks m generated results) fs = .ok () after ∧
        outcome = webhookOutcome m results := by
  rw [verifyWebhookSignatures_eq, run_bind_eq_ok]
  constructor
  · intro h
    obtain ⟨results, between, hresults, h⟩ := h
    obtain ⟨hverified, rfl⟩ := orThrow_eq_ok.mp hresults
    obtain ⟨_, stored, htasks, hpure⟩ := run_bind_eq_ok.mp h
    obtain ⟨rfl, rfl⟩ := pure_eq_ok.mp hpure
    exact ⟨results, hverified, htasks, rfl⟩
  · intro h
    obtain ⟨results, hverified, htasks, rfl⟩ := h
    exact ⟨results, fs, orThrow_eq_ok.mpr ⟨hverified, rfl⟩,
      run_bind_eq_ok.mpr ⟨(), after, htasks, rfl⟩⟩

/-- Whatever the digests are, a run comes to its end where there is room for its report, and then
exits with 0. -/
theorem verifyWebhookSignatures_exit_zero
    (hhex : IsHexDigest (m.rt.hmacSha256 webhookSecret (webhookPayload m.rt))) :
    ((∃ outcome after, verifyWebhookSignatures m generated fs = .ok outcome after) ↔
      RoomFor fs "admissorium-v020-webhook-signature" .webhookSignature generated
        ["report.json"]) ∧
    ∀ outcome after, verifyWebhookSignatures m generated fs = .ok outcome after →
      outcome.code = 0 := by
  obtain ⟨results, hresults, hnone⟩ := exists_webhookResults hhex
  constructor
  · rw [← (stores_webhookTasks (m := m) fs.cwd results).run_iff.1]
    constructor
    · intro h
      obtain ⟨outcome, after, hrun⟩ := h
      obtain ⟨other, hother, htasks, _⟩ := verifyWebhookSignatures_eq_ok_iff.mp hrun
      obtain rfl := Except.ok.inj (hresults.symm.trans hother)
      exact ⟨after, htasks⟩
    · intro h
      obtain ⟨after, htasks⟩ := h
      exact ⟨_, after, verifyWebhookSignatures_eq_ok_iff.mpr ⟨results, hresults, htasks, rfl⟩⟩
  · intro outcome after hrun
    obtain ⟨other, hother, _, rfl⟩ := verifyWebhookSignatures_eq_ok_iff.mp hrun
    obtain rfl := Except.ok.inj (hresults.symm.trans hother)
    rw [webhookOutcome, hnone]
    rfl

end Runs

/-- A machine whose HMAC is always the same digest. -/
noncomputable def signingMachine : Machine :=
  ⟨signingRuntime pushDigest, readWhole, Classical.choice exists_listing,
    fun path => "file://" ++ path⟩

theorem verifyWebhookSignatures_exit_zero_fiveTree : ∃ outcome after,
    verifyWebhookSignatures signingMachine epoch fiveTree = .ok outcome after ∧
      outcome.code = 0 := by
  have hhex : IsHexDigest (signingMachine.rt.hmacSha256 webhookSecret
      (webhookPayload signingMachine.rt)) := by
    show IsHexDigest pushDigest
    decide +kernel
  obtain ⟨hends, hcode⟩ := @verifyWebhookSignatures_exit_zero _ fiveTree epoch hhex
  obtain ⟨outcome, after, hrun⟩ := hends.mpr (roomFor_of_none _ _ _ _ (by decide) rfl)
  exact ⟨outcome, after, hrun, hcode outcome after hrun⟩

end Admissorium.Scripts
