import Admissorium.App.WebhookRequest
import Mathlib.Logic.Function.Basic

/-!
# Webhook intake

`app/webhook-intake` normalizes headers and parses a webhook envelope. The handler of
`app/webhook-request-handler` does the same work with a reading of headers of its own: of
several headers with one name it takes the first, and intake the last that is a text.
-/
namespace Admissorium.App.WebhookIntake
set_option autoImplicit false

open JavaScript Policies RegExp WebhookRoute WebhookRequest

inductive GitHubWebhookSignatureVerdict where
  | valid
  | missingSignature
  | unsupportedSignature
  | malformedSignature
  | invalid
  deriving DecidableEq, Repr

inductive GitHubWebhookEnvelopeVerdict where
  | accepted
  | rejectedSignature
  | rejectedMissingEvent
  | rejectedMissingDelivery
  | rejectedInvalidJson
  | rejectedUnsupportedEvent
  deriving DecidableEq, Repr

/-- The header names that are kept. -/
def webhookHeaderNames : List String :=
  ["x-github-event", "x-github-delivery", "x-hub-signature-256", "user-agent"]

abbrev GitHubWebhookHeaders := Record String

structure SignatureVerification where
  verdict : GitHubWebhookSignatureVerdict
  algorithm : String
  reason : String

structure GitHubWebhookEnvelope where
  verdict : GitHubWebhookEnvelopeVerdict
  event : Option String := none
  delivery : Option String := none
  action : Option String := none
  repositoryFullName : Option String := none
  senderLogin : Option String := none
  payload : Option Value := none
  signature : SignatureVerification
  writeBehavior : String := "NONE"
  reason : String

/-- A body handed over as bytes is the same as its text. -/
structure ParseWebhookEnvelopeInput where
  headers : GitHubWebhookHeaders
  rawBody : String
  webhookSecret : String
  allowedEvents : Option (List String) := none

def defaultAllowedEvents : List String :=
  ["pull_request", "push", "check_suite", "check_run", "workflow_run", "issues", "issue_comment",
    "repository", "release"]

def normalizeEntry (rt : Runtime) (normalized : GitHubWebhookHeaders)
    (entry : String × HeaderValue) : GitHubWebhookHeaders :=
  let key := rt.toLowerCase entry.1
  match entry.2.first with
  | none => normalized
  | some value =>
      if key ∈ webhookHeaderNames then Function.update normalized key (some value) else normalized

def normalizeGitHubWebhookHeaders (rt : Runtime) (headers : Headers) : GitHubWebhookHeaders :=
  headers.foldl (normalizeEntry rt) (fun _ => none)

def computeGitHubWebhookSignature (rt : Runtime) (rawBody webhookSecret : String) : String :=
  "sha256=" ++ rt.hmacSha256 webhookSecret rawBody

def safeEqualUtf8 (left right : String) : Bool :=
  let leftBuffer := left.toUTF8
  let rightBuffer := right.toUTF8
  if leftBuffer.size ≠ rightBuffer.size then false else leftBuffer = rightBuffer

/-- `[0-9a-f]` under the flag `i`. -/
def hexDigit : CharSet := .union (.range '0' '9') (.union (.range 'a' 'f') (.range 'A' 'F'))

/-- `/^[0-9a-f]{64}$/i`. -/
def digestPattern : RegExp := anchored (List.replicate 64 (set hexDigit))

def verifyGitHubWebhookSignature (rt : Runtime) (rawBody webhookSecret : String)
    (receivedSignature : Option String) : SignatureVerification :=
  match orElseText receivedSignature none with
  | none => ⟨.missingSignature, "sha256", "Missing x-hub-signature-256 header."⟩
  | some received =>
      if !Text.startsWith received "sha256=" then
        ⟨.unsupportedSignature, "sha256", "Only GitHub sha256 webhook signatures are accepted."⟩
      else
        let digest := String.ofList (received.toList.drop "sha256=".length)
        if !digestPattern.test digest then
          ⟨.malformedSignature, "sha256", "Webhook signature is not a valid sha256 hex digest."⟩
        else
          let expected := computeGitHubWebhookSignature rt rawBody webhookSecret
          if !safeEqualUtf8 expected received then
            ⟨.invalid, "sha256", "Webhook signature does not match payload body."⟩
          else ⟨.valid, "sha256", "Webhook signature matches payload body."⟩

def stringField (record : Value) (key : String) : Option String :=
  match record.get key with
  | .str s => some s
  | _ => none

def nestedString (value : Value) (first second : String) : Option String := do
  let parent ← record (value.get first)
  stringField parent second

def acceptedEnvelope (event delivery : String) (payload : Value)
    (signature : SignatureVerification) : GitHubWebhookEnvelope :=
  let envelope : GitHubWebhookEnvelope :=
    { verdict := .accepted
      event := some event
      delivery := some delivery
      payload := some payload
      signature
      reason := "Webhook envelope accepted for read-only intake." }
  match record payload with
  | none => envelope
  | some fields =>
      { envelope with
        action := orElseText (stringField fields "action") none
        repositoryFullName := orElseText (nestedString fields "repository" "full_name") none
        senderLogin := orElseText (nestedString fields "sender" "login") none }

def parseGitHubWebhookEnvelope (rt : Runtime) (parse : JsonParse)
    (input : ParseWebhookEnvelopeInput) : GitHubWebhookEnvelope :=
  let allowedEvents := input.allowedEvents.getD defaultAllowedEvents
  let signature := verifyGitHubWebhookSignature rt input.rawBody input.webhookSecret
    (input.headers "x-hub-signature-256")
  if signature.verdict ≠ .valid then
    { verdict := .rejectedSignature, signature, reason := signature.reason }
  else
    match orElseText (input.headers "x-github-event") none with
    | none =>
        { verdict := .rejectedMissingEvent, signature, reason := "Missing x-github-event header." }
    | some event =>
        match orElseText (input.headers "x-github-delivery") none with
        | none =>
            { verdict := .rejectedMissingDelivery
              event := some event
              signature
              reason := "Missing x-github-delivery header." }
        | some delivery =>
            if event ∉ allowedEvents then
              { verdict := .rejectedUnsupportedEvent
                event := some event
                delivery := some delivery
                signature
                reason := "Unsupported GitHub webhook event: " ++ event }
            else
              match parse input.rawBody with
              | .error _ =>
                  { verdict := .rejectedInvalidJson
                    event := some event
                    delivery := some delivery
                    signature
                    reason := "Webhook body is not valid JSON." }
              | .ok payload => acceptedEnvelope event delivery payload signature

/-! ## Headers -/

/-- The last header of that name that holds a text. -/
def lastText (rt : Runtime) (headers : Headers) (name : String) : Option String :=
  headers.reverse.findSome? (fun entry =>
    if rt.toLowerCase entry.1 = name then entry.2.first else none)

theorem lastText_cons (rt : Runtime) (entry : String × HeaderValue) (rest : Headers)
    (name : String) : lastText rt (entry :: rest) name =
      (lastText rt rest name).or
        (if rt.toLowerCase entry.1 = name then entry.2.first else none) := by
  rw [lastText, List.reverse_cons, List.findSome?_append]
  simp [lastText]

theorem normalizeEntry_apply (rt : Runtime) (normalized : GitHubWebhookHeaders)
    (entry : String × HeaderValue) {name : String} (h : name ∈ webhookHeaderNames) :
    normalizeEntry rt normalized entry name =
      (if rt.toLowerCase entry.1 = name then entry.2.first else none).or (normalized name) := by
  unfold normalizeEntry
  cases hvalue : entry.2.first with
  | none => simp
  | some value =>
      by_cases hkey : rt.toLowerCase entry.1 = name
      · simp [hkey, h]
      · by_cases hkept : rt.toLowerCase entry.1 ∈ webhookHeaderNames
        · simp [hkept, hkey, Function.update_of_ne (Ne.symm hkey)]
        · simp [hkept, hkey]

/-- A later text replaces an earlier one. -/
theorem foldl_normalizeEntry (rt : Runtime) (headers : Headers) {name : String}
    (h : name ∈ webhookHeaderNames) (normalized : GitHubWebhookHeaders) :
    headers.foldl (normalizeEntry rt) normalized name =
      (lastText rt headers name).or (normalized name) := by
  induction headers generalizing normalized with
  | nil => rfl
  | cons entry rest ih =>
      rw [List.foldl_cons, ih, normalizeEntry_apply rt normalized entry h, lastText_cons,
        Option.or_assoc]

theorem normalizeGitHubWebhookHeaders_apply (rt : Runtime) (headers : Headers) {name : String}
    (h : name ∈ webhookHeaderNames) :
    normalizeGitHubWebhookHeaders rt headers name = lastText rt headers name := by
  rw [normalizeGitHubWebhookHeaders, foldl_normalizeEntry rt headers h, Option.or_none]

/-! ## Signatures -/

/-- What `digest("hex")` returns for SHA-256. -/
def IsHexDigest (text : String) : Prop :=
  text.toList.length = 64 ∧
    ∀ c ∈ text.toList, ('0' ≤ c ∧ c ≤ '9') ∨ ('a' ≤ c ∧ c ≤ 'f')

instance (text : String) : Decidable (IsHexDigest text) :=
  @instDecidableAnd _ _ _ (List.decidableBAll _ _)

theorem mem_lang_replicate (s : CharSet) (n : Nat) (w : List Char) :
    w ∈ (concat (List.replicate n (set s))).lang ↔
      w.length = n ∧ ∀ c ∈ w, s.member c = true := by
  induction n generalizing w with
  | zero =>
      rw [List.replicate_zero, List.length_eq_zero_iff]
      constructor
      · rintro rfl
        simp
      · exact fun h => h.1
  | succ n ih =>
      rw [List.replicate_succ, concat_cons, lang, Language.mem_mul]
      simp only [ih]
      constructor
      · intro h
        obtain ⟨u, ⟨c, hc, rfl⟩, v, ⟨hlength, hv⟩, rfl⟩ := h
        simp [hlength, hc]
        exact hv
      · intro h
        obtain ⟨hlength, hw⟩ := h
        cases w with
        | nil => cases hlength
        | cons c v =>
            exact ⟨[c], ⟨c, hw c (by simp), rfl⟩, v, ⟨by simpa using hlength,
              fun d hd => hw d (by simp [hd])⟩, rfl⟩

theorem digestPattern_of_hex {text : String} (h : IsHexDigest text) :
    digestPattern.test text = true := by
  have hplain : (List.replicate 64 (set hexDigit)).all plain = true := by decide
  rw [digestPattern, test_anchored hplain, mem_lang_replicate]
  refine ⟨h.1, ?_⟩
  intro c hc
  rcases h.2 c hc with ⟨hlo, hhi⟩ | ⟨hlo, hhi⟩ <;> simp [hexDigit, CharSet.member, hlo, hhi]

theorem safeEqualUtf8_iff (left right : String) : safeEqualUtf8 left right = true ↔ left = right :=
  sameBuffers_iff left right

section Intake
variable {rt : Runtime} (parse : JsonParse) {body secret : String}

/-- A signature is valid when it is the one the handler expects. -/
theorem verify_valid_iff (hhex : IsHexDigest (rt.hmacSha256 secret body))
    (received : Option String) :
    (verifyGitHubWebhookSignature rt body secret received).verdict = .valid ↔
      received = some (expectedSignature rt secret body) := by
  have hsame : computeGitHubWebhookSignature rt body secret = expectedSignature rt secret body :=
    rfl
  constructor
  · intro h
    unfold verifyGitHubWebhookSignature at h
    cases received with
    | none => cases h
    | some received =>
        by_cases hempty : received = ""
        · simp [orElseText, hempty] at h
        · simp only [orElseText, hempty, if_false] at h
          repeat' split at h
          all_goals cases h
          rename_i hequal
          simp only [Bool.not_eq_true', Bool.not_eq_false] at hequal
          rw [← (safeEqualUtf8_iff _ _).mp hequal, hsame]
  · rintro rfl
    have hne : expectedSignature rt secret body ≠ "" := by
      intro h
      have hlength := congrArg (fun s => s.toList.length) h
      simp [expectedSignature] at hlength
    have hstart := startsWith_expectedSignature rt secret body
    have hdigest : String.ofList ((expectedSignature rt secret body).toList.drop
        "sha256=".length) = rt.hmacSha256 secret body := by
      rw [expectedSignature, String.toList_append]
      have hlength : "sha256=".length = "sha256=".toList.length := rfl
      rw [hlength, List.drop_left, String.ofList_toList]
    have hequal := (safeEqualUtf8_iff (expectedSignature rt secret body) _).mpr rfl
    unfold verifyGitHubWebhookSignature
    simp only [orElseText, hne, if_false, hstart, hdigest, digestPattern_of_hex hhex, hsame,
      hequal, Bool.not_true, Bool.false_eq_true]

/-- A text that is neither missing nor empty. -/
theorem orElseText_none_iff (value : Option String) (text : String) :
    orElseText value none = some text ↔ value = some text ∧ text ≠ "" := by
  cases value with
  | none => simp [orElseText]
  | some s =>
      by_cases hs : s = ""
      · subst hs
        simp only [orElseText, if_true, Option.some.injEq]
        constructor
        · intro h
          cases h
        · rintro ⟨rfl, h⟩
          exact absurd rfl h
      · simp only [orElseText, if_neg hs, Option.some.injEq]
        constructor
        · rintro rfl
          exact ⟨rfl, hs⟩
        · exact fun h => h.1

/-- Intake accepts the request with this event, delivery and payload. -/
def AcceptsAs (envelope : GitHubWebhookEnvelope) (handled : WebhookRequestEnvelope) : Prop :=
  envelope.verdict = .accepted ∧ envelope.event = some handled.event ∧
    envelope.delivery = some handled.delivery ∧ envelope.payload = some handled.payload

theorem acceptedEnvelope_acceptsAs_iff (event delivery : String) (payload : Value)
    (signature : SignatureVerification) (handled : WebhookRequestEnvelope) :
    AcceptsAs (acceptedEnvelope event delivery payload signature) handled ↔
      handled = ⟨event, delivery, payload⟩ := by
  have hfields : (acceptedEnvelope event delivery payload signature).verdict = .accepted ∧
      (acceptedEnvelope event delivery payload signature).event = some event ∧
      (acceptedEnvelope event delivery payload signature).delivery = some delivery ∧
      (acceptedEnvelope event delivery payload signature).payload = some payload := by
    unfold acceptedEnvelope
    cases record payload <;> exact ⟨rfl, rfl, rfl, rfl⟩
  obtain ⟨hverdict, hevent, hdelivery, hpayload⟩ := hfields
  rw [AcceptsAs, hverdict, hevent, hdelivery, hpayload]
  cases handled
  simp [eq_comm]

/-- What intake asks of the normalized headers and the body. -/
theorem parse_acceptsAs_iff (hhex : IsHexDigest (rt.hmacSha256 secret body))
    (headers : GitHubWebhookHeaders) (handled : WebhookRequestEnvelope) :
    AcceptsAs (parseGitHubWebhookEnvelope rt parse ⟨headers, body, secret, none⟩) handled ↔
      headers "x-hub-signature-256" = some (expectedSignature rt secret body) ∧
      (headers "x-github-event" = some handled.event ∧ handled.event ≠ "") ∧
      (headers "x-github-delivery" = some handled.delivery ∧ handled.delivery ≠ "") ∧
      handled.event ∈ defaultAllowedEvents ∧ parse body = .ok handled.payload := by
  rw [← verify_valid_iff hhex, ← orElseText_none_iff, ← orElseText_none_iff]
  unfold parseGitHubWebhookEnvelope
  simp only [Option.getD_none]
  generalize verifyGitHubWebhookSignature rt body secret (headers "x-hub-signature-256") = signature
  by_cases hsignature : signature.verdict = .valid
  · cases hevent : orElseText (headers "x-github-event") none with
    | none => simp [hsignature, AcceptsAs]
    | some event =>
    cases hdelivery : orElseText (headers "x-github-delivery") none with
    | none => simp [hsignature, AcceptsAs]
    | some delivery =>
    by_cases hallowed : event ∈ defaultAllowedEvents
    · cases hparse : parse body with
      | error e => simp [hsignature, hallowed, AcceptsAs]
      | ok payload =>
          simp only [hsignature, hallowed, ne_eq, not_true_eq_false, if_false,
            acceptedEnvelope_acceptsAs_iff, Option.some.injEq, Except.ok.injEq, true_and]
          constructor
          · rintro rfl
            exact ⟨rfl, rfl, hallowed, rfl⟩
          · intro h
            obtain ⟨rfl, rfl, _, rfl⟩ := h
            rfl
    · simp only [hsignature, hallowed, AcceptsAs, ne_eq, not_true_eq_false, if_false,
        not_false_eq_true, if_true, reduceCtorEq, false_and, Option.some.injEq, true_and, false_iff]
      intro h
      obtain ⟨rfl, _, hevents, _⟩ := h
      exact hallowed hevents
  · simp [hsignature, AcceptsAs]

end Intake

/-! ## Agreement -/

section Agreement
variable (rt : Runtime) (parse : JsonParse) (host : Host) (input : WebhookRequestHandlerInput)

/-- What the handler dispatches, intake accepts as the same event, delivery and payload. -/
def IntakeAgrees : Prop :=
  ∀ route handled, (handleWebhookRequest rt parse host input).decision = .routed →
    (handleWebhookRequest rt parse host input).route_plan = some route →
    (handleWebhookRequest rt parse host input).envelope = some handled →
    route.decision = .dispatchPullRequestPlan ∨ route.decision = .dispatchPushPlan →
    AcceptsAs (parseGitHubWebhookEnvelope rt parse
      ⟨normalizeGitHubWebhookHeaders rt input.headers, input.body, input.secret, none⟩) handled

/-- A verified event with a repository and a commit that no switch stops. -/
def Dispatchable (envelope : WebhookRequestEnvelope) : Prop :=
  Verified rt parse input envelope ∧ dispatchStopped (input.env.getD host.env) = false ∧
    ∃ repo sha decision, repository envelope.payload = some repo ∧
      Dispatched envelope.payload sha envelope.event decision

/-- Of each of the three headers, the last text is what the first one holds, and the
delivery is not empty. -/
def HeadersAgree : Prop :=
  (∀ name ∈ ["x-github-event", "x-github-delivery", "x-hub-signature-256"],
    lastText rt input.headers name = header rt input.headers name) ∧
  header rt input.headers "x-github-delivery" ≠ some ""

/-- The handler routes a dispatch exactly for dispatchable requests. -/
theorem handle_dispatches_iff (handled : WebhookRequestEnvelope) :
    (∃ route, (handleWebhookRequest rt parse host input).decision = .routed ∧
      (handleWebhookRequest rt parse host input).route_plan = some route ∧
      (handleWebhookRequest rt parse host input).envelope = some handled ∧
      (route.decision = .dispatchPullRequestPlan ∨ route.decision = .dispatchPushPlan)) ↔
    Dispatchable rt parse host input handled := by
  have hcommit : WebhookRouteDecision.dispatchPullRequestPlan.denies = false ∧
      WebhookRouteDecision.dispatchPushPlan.denies = false := by decide
  rcases handleWebhookRequest_cases rt parse host input with
    ⟨envelope, hv, hrun⟩ | ⟨hnone, _, _, hrun⟩
  · have hdispatch := dispatch_dispatches_iff host
      ⟨envelope.event, envelope.delivery, envelope.payload, input.env⟩
    rw [← dispatch_routeInput] at hdispatch
    have hparts : (routeResult host input envelope).route_plan =
        some (dispatchWebhookRoute host (input.routeInput envelope)) ∧
        (routeResult host input envelope).envelope = some envelope := ⟨rfl, rfl⟩
    rw [hrun, hparts.1, hparts.2]
    constructor
    · intro h
      obtain ⟨route, _, hr, he, hd⟩ := h
      obtain rfl := Option.some.inj hr
      obtain rfl := Option.some.inj he
      exact ⟨hv, hdispatch.mp hd⟩
    · intro h
      obtain ⟨hv', hd⟩ := h
      obtain rfl := hv.unique hv'
      have hd := hdispatch.mpr hd
      refine ⟨_, ?_, rfl, rfl, hd⟩
      have hrouted : (dispatchWebhookRoute host (input.routeInput envelope)).decision.denies =
          false := by
        rcases hd with hd | hd
        · rw [hd]
          exact hcommit.1
        · rw [hd]
          exact hcommit.2
      unfold routeResult
      simp [hrouted, baseResult]
  · rw [hrun]
    constructor
    · intro h
      obtain ⟨_, _, hr, _⟩ := h
      cases hr
    · exact fun h => absurd h.1 (hnone handled)

/-- A dispatchable request, read by intake, is accepted exactly when its headers agree. -/
theorem acceptsAs_iff_headersAgree (hhex : IsHexDigest (rt.hmacSha256 input.secret input.body))
    {handled : WebhookRequestEnvelope} (h : Dispatchable rt parse host input handled) :
    AcceptsAs (parseGitHubWebhookEnvelope rt parse
      ⟨normalizeGitHubWebhookHeaders rt input.headers, input.body, input.secret, none⟩) handled ↔
    HeadersAgree rt input := by
  obtain ⟨hv, _, _, _, _, _, hd⟩ := h
  have hlisted : handled.event ≠ "" ∧ handled.event ∈ defaultAllowedEvents := by
    rcases hd with ⟨he, _⟩ | ⟨he, _⟩ <;> rw [he] <;> decide
  rw [parse_acceptsAs_iff parse hhex, normalizeGitHubWebhookHeaders_apply rt _ (by decide),
    normalizeGitHubWebhookHeaders_apply rt _ (by decide),
    normalizeGitHubWebhookHeaders_apply rt _ (by decide), HeadersAgree]
  simp only [List.forall_mem_cons, hv.event, hv.delivery, hv.signature, ne_eq, Option.some.injEq]
  constructor
  · intro h
    obtain ⟨hsignature, ⟨hevent, _⟩, ⟨hdelivery, hne⟩, _⟩ := h
    exact ⟨⟨hevent, hdelivery, hsignature, by simp⟩, hne⟩
  · intro h
    obtain ⟨⟨hevent, hdelivery, hsignature, _⟩, hne⟩ := h
    exact ⟨hsignature, ⟨hevent, hlisted.1⟩, ⟨hdelivery, hne⟩, hlisted.2, hv.payload⟩

/-- Handler and intake agree unless a dispatchable request has headers that they read
differently. -/
theorem intakeAgrees_iff (hhex : IsHexDigest (rt.hmacSha256 input.secret input.body)) :
    IntakeAgrees rt parse host input ↔
      ((∃ handled, Dispatchable rt parse host input handled) → HeadersAgree rt input) := by
  constructor
  · intro h hcase
    obtain ⟨handled, hd⟩ := hcase
    obtain ⟨route, hrouted, hplan, henvelope, hdecision⟩ :=
      (handle_dispatches_iff rt parse host input handled).mpr hd
    exact (acceptsAs_iff_headersAgree rt parse host input hhex hd).mp
      (h route handled hrouted hplan henvelope hdecision)
  · intro hagree route handled hrouted hplan henvelope hdecision
    have hd := (handle_dispatches_iff rt parse host input handled).mp
      ⟨route, hrouted, hplan, henvelope, hdecision⟩
    exact (acceptsAs_iff_headersAgree rt parse host input hhex hd).mpr (hagree ⟨handled, hd⟩)

end Agreement

def pushBody : String :=
  "\x7b\"after\":\"4b825dc642cb6eb9a060e54bf8d69288fbee4904\",\"repository\":\x7b\"full_name\":\"Verifrax/ADMISSORIUM\"\x7d\x7d"

def pushPayload : Value :=
  .obj [("after", .str "4b825dc642cb6eb9a060e54bf8d69288fbee4904"),
    ("repository", .obj [("full_name", .str "Verifrax/ADMISSORIUM")])]

/-- The HMAC of the push under the key `secret`. -/
def pushDigest : String := "9942492eb4d71cd4c1b9bb301d25f489707781c24b225c4ee53a28b69a0cf4ef"

def pushInput (events : Headers) : WebhookRequestHandlerInput where
  headers := events ++ [("X-GitHub-Delivery", .list ["1", "2"]),
    ("X-Hub-Signature-256", .text ("sha256=" ++ pushDigest))]
  body := pushBody
  secret := "secret"

theorem intakeAgrees_iff_push :
    IntakeAgrees (signingRuntime pushDigest) (parseOf pushBody pushPayload)
      ⟨fun _ => none, shipped⟩ (pushInput [("X-GitHub-Event", .text "push")]) :=
  (intakeAgrees_iff (signingRuntime pushDigest) (parseOf pushBody pushPayload)
    ⟨fun _ => none, shipped⟩ (pushInput [("X-GitHub-Event", .text "push")])
    (by decide +kernel)).mpr (fun _ => ⟨by decide +kernel, by decide +kernel⟩)

/-- A second event header, of another case, makes intake accept an `issues` event. -/
theorem repeatedEvent_not_intakeAgrees :
    ¬ IntakeAgrees (signingRuntime pushDigest) (parseOf pushBody pushPayload)
      ⟨fun _ => none, shipped⟩
      (pushInput [("X-GitHub-Event", .text "push"), ("x-github-event", .text "issues")]) := by
  intro hagrees
  have hverified : Verified (signingRuntime pushDigest) (parseOf pushBody pushPayload)
      (pushInput [("X-GitHub-Event", .text "push"), ("x-github-event", .text "issues")])
      ⟨"push", "1", pushPayload⟩ :=
    ⟨by decide +kernel, by decide +kernel, by decide +kernel, rfl⟩
  have hdispatchable : Dispatchable (signingRuntime pushDigest) (parseOf pushBody pushPayload)
      ⟨fun _ => none, shipped⟩
      (pushInput [("X-GitHub-Event", .text "push"), ("x-github-event", .text "issues")])
      ⟨"push", "1", pushPayload⟩ :=
    ⟨hverified, rfl, "Verifrax/ADMISSORIUM", "4b825dc642cb6eb9a060e54bf8d69288fbee4904",
      .dispatchPushPlan, by decide +kernel, Or.inr ⟨rfl, by decide +kernel, rfl⟩⟩
  have hhex : IsHexDigest pushDigest := by decide +kernel
  obtain ⟨route, hrouted, hplan, henvelope, hdecision⟩ :=
    (handle_dispatches_iff _ _ _ _ _).mpr hdispatchable
  have hheaders := (acceptsAs_iff_headersAgree _ _ _ _ hhex hdispatchable).mp
    (hagrees route _ hrouted hplan henvelope hdecision)
  revert hheaders
  rw [HeadersAgree]
  decide +kernel

end Admissorium.App.WebhookIntake
