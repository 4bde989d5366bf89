import Admissorium.App.WebhookRoute
import Mathlib

/-!
# The webhook request handler

`app/webhook-request-handler` looks three headers up, verifies the signature, parses the
body and routes the event. Headers are listed in the order in which they are enumerated.
`JSON.parse` is a parameter: nothing here depends on which texts it accepts.
-/
namespace Admissorium.App.WebhookRequest
set_option autoImplicit false

open JavaScript Policies WebhookRoute

/-- `string | string[] | undefined`. -/
inductive HeaderValue where
  | missing
  | text (s : String)
  | list (items : List String)
  deriving DecidableEq, Repr

abbrev Headers := List (String × HeaderValue)

/-- `Array.isArray(value) ? value[0] : value`. -/
def HeaderValue.first : HeaderValue → Option String
  | missing => none
  | text s => some s
  | list items => items.head?

/-- `JSON.parse`. -/
abbrev JsonParse := String → Except JsError Value

inductive WebhookRequestHandlerDecision where
  | routed
  | deniedIntake
  | deniedRoute
  deriving DecidableEq, Repr

structure WebhookRequestHandlerInput where
  headers : Headers
  body : String
  secret : String
  env : Option Env := none

structure WebhookRequestEnvelope where
  event : String
  delivery : String
  payload : Value

/-- `null` is `none`. -/
structure WebhookRequestHandlerResult where
  decision : WebhookRequestHandlerDecision
  accepted : Bool
  status_code : Nat
  envelope : Option WebhookRequestEnvelope
  route_plan : Option WebhookRoutePlan
  write_behavior : String
  server_binding : String
  execution : String
  token_exchange : String
  truth_mutation : Bool
  registry_mutation : Bool
  reasons : List String

def header (rt : Runtime) (headers : Headers) (name : String) : Option String :=
  let wanted := rt.toLowerCase name
  match headers.find? (fun entry => rt.toLowerCase entry.1 = wanted) with
  | some (_, value) => value.first
  | none => none

def baseResult (decision : WebhookRequestHandlerDecision) (accepted : Bool) (status_code : Nat)
    (envelope : Option WebhookRequestEnvelope) (route_plan : Option WebhookRoutePlan)
    (reasons : List String) : WebhookRequestHandlerResult where
  decision
  accepted
  status_code
  envelope
  route_plan
  write_behavior := "NONE"
  server_binding := "NONE"
  execution := "PLAN_ONLY"
  token_exchange := "NOT_PERFORMED"
  truth_mutation := false
  registry_mutation := false
  reasons

def expectedSignature (rt : Runtime) (secret body : String) : String :=
  "sha256=" ++ rt.hmacSha256 secret body

/-- The buffers hold the UTF-8 bytes of the two texts. -/
def validSignature (rt : Runtime) (secret body : String) (observed : Option String) : Bool :=
  match observed with
  | none => false
  | some observed =>
      if !Text.startsWith observed "sha256=" then false
      else
        let observedBuffer := observed.toUTF8
        let expectedBuffer := (expectedSignature rt secret body).toUTF8
        if observedBuffer.size ≠ expectedBuffer.size then false
        else observedBuffer = expectedBuffer

def routeStatus (decision : WebhookRouteDecision) : Nat :=
  if decision = .denyEmergencyStop then 403
  else if decision.denies then 422
  else 202

/-- What is handed to the dispatcher once the request is verified. -/
def WebhookRequestHandlerInput.routeInput (input : WebhookRequestHandlerInput)
    (envelope : WebhookRequestEnvelope) : WebhookRouteDispatcherInput :=
  match input.env with
  | none => ⟨envelope.event, envelope.delivery, envelope.payload, none⟩
  | some env => ⟨envelope.event, envelope.delivery, envelope.payload, some env⟩

def routeResult (host : Host) (input : WebhookRequestHandlerInput)
    (envelope : WebhookRequestEnvelope) : WebhookRequestHandlerResult :=
  let routePlan := dispatchWebhookRoute host (input.routeInput envelope)
  let denied := routePlan.decision.denies
  baseResult (if denied then .deniedRoute else .routed) (!denied) (routeStatus routePlan.decision)
    (some envelope) (some routePlan) routePlan.reasons

def handleWebhookRequest (rt : Runtime) (parse : JsonParse) (host : Host)
    (input : WebhookRequestHandlerInput) : WebhookRequestHandlerResult :=
  let event := header rt input.headers "x-github-event"
  let delivery := header rt input.headers "x-github-delivery"
  let signature := header rt input.headers "x-hub-signature-256"
  match event, delivery with
  | some event, some delivery =>
      if !validSignature rt input.secret input.body signature then
        baseResult .deniedIntake false 401 none none ["Webhook signature verification failed."]
      else
        match parse input.body with
        | .error _ =>
            baseResult .deniedIntake false 400 none none ["Webhook payload is not valid JSON."]
        | .ok payload => routeResult host input ⟨event, delivery, payload⟩
  | _, _ =>
      baseResult .deniedIntake false 400 none none ["Missing required GitHub webhook headers."]

/-! ## What the handler lets through -/

section Handled
variable (rt : Runtime) (parse : JsonParse) (host : Host) (input : WebhookRequestHandlerInput)

/-- Two texts are the same when the buffers of their bytes are. -/
theorem sameBuffers_iff (left right : String) :
    (if left.toUTF8.size ≠ right.toUTF8.size then false
      else decide (left.toUTF8 = right.toUTF8)) = true ↔ left = right := by
  constructor
  · intro h
    by_cases hsize : left.toUTF8.size ≠ right.toUTF8.size
    · rw [if_pos hsize] at h
      cases h
    · rw [if_neg hsize] at h
      exact String.toByteArray_inj.mp (of_decide_eq_true h)
  · rintro rfl
    simp

theorem startsWith_expectedSignature (secret body : String) :
    Text.startsWith (expectedSignature rt secret body) "sha256=" = true := by
  rw [Text.startsWith, List.isPrefixOf_iff_prefix, expectedSignature, String.toList_append]
  exact List.prefix_append _ _

/-- The signature is the expected one, character for character. -/
theorem validSignature_iff (secret body : String) (observed : Option String) :
    validSignature rt secret body observed = true ↔
      observed = some (expectedSignature rt secret body) := by
  cases observed with
  | none => simp [validSignature]
  | some observed =>
      rw [Option.some.injEq]
      constructor
      · intro h
        unfold validSignature at h
        by_cases hs : Text.startsWith observed "sha256=" = true
        · simp only [hs, Bool.not_true, Bool.false_eq_true, if_false] at h
          exact (sameBuffers_iff _ _).mp h
        · simp [hs] at h
      · rintro rfl
        simp [validSignature, startsWith_expectedSignature]

/-- The request carries its event, its delivery and the signature of its body, and the
body parses. -/
structure Verified (envelope : WebhookRequestEnvelope) : Prop where
  event : header rt input.headers "x-github-event" = some envelope.event
  delivery : header rt input.headers "x-github-delivery" = some envelope.delivery
  signature : header rt input.headers "x-hub-signature-256" =
    some (expectedSignature rt input.secret input.body)
  payload : parse input.body = .ok envelope.payload

/-- Apart from verified requests, everything is refused at intake. -/
theorem handleWebhookRequest_cases :
    (∃ envelope, Verified rt parse input envelope ∧
      handleWebhookRequest rt parse host input = routeResult host input envelope) ∨
    ((∀ envelope, ¬ Verified rt parse input envelope) ∧ ∃ status reasons,
      handleWebhookRequest rt parse host input =
        baseResult .deniedIntake false status none none reasons) := by
  unfold handleWebhookRequest
  cases hevent : header rt input.headers "x-github-event" with
  | none => exact Or.inr ⟨fun _ h => (nomatch hevent.symm.trans h.event), _, _, rfl⟩
  | some event =>
  cases hdelivery : header rt input.headers "x-github-delivery" with
  | none => exact Or.inr ⟨fun _ h => (nomatch hdelivery.symm.trans h.delivery), _, _, rfl⟩
  | some delivery =>
  by_cases hsig : validSignature rt input.secret input.body
      (header rt input.headers "x-hub-signature-256") = true
  · cases hparse : parse input.body with
    | error e =>
        refine Or.inr ⟨fun _ h => (nomatch hparse.symm.trans h.payload), 400,
          ["Webhook payload is not valid JSON."], ?_⟩
        simp [hsig]
    | ok payload =>
        refine Or.inl ⟨⟨event, delivery, payload⟩, ⟨hevent, hdelivery, ?_, hparse⟩, ?_⟩
        · exact (validSignature_iff rt _ _ _).mp hsig
        · simp [hsig]
  · refine Or.inr ⟨fun _ h => hsig ((validSignature_iff rt _ _ _).mpr h.signature), 401,
      ["Webhook signature verification failed."], ?_⟩
    simp [hsig]

variable {rt parse input} in
/-- A request is verified with one envelope only. -/
theorem Verified.unique {a b : WebhookRequestEnvelope} (ha : Verified rt parse input a)
    (hb : Verified rt parse input b) : a = b := by
  have hevent := Option.some.inj (ha.event.symm.trans hb.event)
  have hdelivery := Option.some.inj (ha.delivery.symm.trans hb.delivery)
  have hpayload := Except.ok.inj (ha.payload.symm.trans hb.payload)
  cases a
  cases b
  simp_all

variable {rt parse input} in
theorem handleWebhookRequest_verified {envelope : WebhookRequestEnvelope}
    (h : Verified rt parse input envelope) :
    handleWebhookRequest rt parse host input = routeResult host input envelope := by
  rcases handleWebhookRequest_cases rt parse host input with ⟨other, ho, hrun⟩ | ⟨hnone, _⟩
  · rw [hrun, h.unique ho]
  · exact absurd h (hnone envelope)

/-- The switches are read from the environment of the request, or else of the process. -/
theorem dispatch_routeInput (envelope : WebhookRequestEnvelope) :
    dispatchWebhookRoute host (input.routeInput envelope) =
      dispatchWebhookRoute host ⟨envelope.event, envelope.delivery, envelope.payload, input.env⟩ := by
  unfold WebhookRequestHandlerInput.routeInput
  cases input.env <;> rfl

end Handled

/-! ## Runs on a known request -/

/-- A runtime whose HMAC is known on the one text it is asked about. -/
def signingRuntime (digest : String) : Runtime :=
  { Runtime.ascii with hmacSha256 := fun _ _ => digest }

/-- `JSON.parse` on the one body it is asked about. -/
def parseOf (body : String) (payload : Value) : JsonParse :=
  fun text => if text = body then .ok payload else .error .syntaxError

end Admissorium.App.WebhookRequest
