import TenantRelay.Dispatch.Registry
import TenantRelay.Dispatch.Rejection
import TenantRelay.Envelope.Schema
import TenantRelay.Gzip.Member
import TenantRelay.Http.Routing
import TenantRelay.Metrics.Measure
import TenantRelay.Signature

/-!
The front of an extension. A call passes one gate after another before a handler
runs: it must be signed, whole, unpacked, readable and meant for something that is
registered. Which gate it fails decides its answer.
-/

namespace TenantRelay

variable {m : Type → Type}

/-- What an extension offers apart from its events, which follow from its handlers. -/
structure Offer where
  views : List Json := []
  config : Json := .null
  request : KeyMap Json := ∅

def Offer.ofSchema (s : Schema) : Offer := ⟨s.views, s.config, s.request⟩

structure Dispatcher (m : Type → Type) where
  name : String
  secret : String
  registry : Registry m := {}
  offer : Offer := {}
  clients : ClientFactory := .default
  maxBody : Nat := 33554432

/-- What is left to do for a message that passed every gate. -/
inductive Plan (m : Type → Type) where
  | settled (response : Response) (reports : List ErrorReport)
  | handling (kind : String) (tenant : Tenant) (handler : m Outcome)

structure Dispatched where
  result : Except Rejection Response
  reports : List ErrorReport := []

structure Handled where
  answer : Http.Answer
  reports : List ErrorReport := []
  measures : List Measure := []

namespace Dispatcher

variable (d : Dispatcher m)

def schema : Schema :=
  { views := d.offer.views, config := d.offer.config, request := d.offer.request
    requiredEvents := d.registry.eventNames }

/-! Gates before the message is known. -/

/-- A header that is no text is an empty signature, which nothing was ever signed
with. -/
def signature? (call : Http.Call) : Option String :=
  match call.headers.get? Signature.header with
  | none => none
  | some [] => none
  | some value => some ((Http.headerText? value).getD "")

def readBody (call : Http.Call) : Except Rejection.Cause Bytes :=
  if d.maxBody < call.body.length then .error (.bodyRead "length limit exceeded")
  else match call.bodyFault with
    | some text => .error (.bodyRead text)
    | none => .ok call.body

def signed (secret : Bytes) (call : Http.Call) : Http.Call :=
  let signature := Text.Utf8.encode (Signature.sign secret call.body)
  { call with headers := (Signature.header, signature) :: call.headers }

def isPacked (call : Http.Call) : Bool :=
  ((call.headers.get? "content-encoding").bind Http.headerText?).any fun text =>
    text.map Char.toLower == "gzip"

def unpack (call : Http.Call) (raw : Bytes) : Except Rejection.Cause Bytes :=
  if isPacked call then (Gzip.expand d.maxBody raw).mapError fun fault => .decompression fault.message
  else .ok raw

def admitted (signature : String) (call : Http.Call) : Except Rejection.Cause Message := do
  -- The signature is of the bytes as they came.
  let raw ← d.readBody call
  if Signature.verify raw signature (Text.Utf8.encode d.secret) then
    let plain ← d.unpack call raw
    (Json.parse Message.decoder plain).mapError .invalidMessage
  else throw .invalidSignature

/-! Gates behind it. -/

def refusal (kind : String) (tenant : Tenant) (cause : Rejection.Cause) : Rejection :=
  { cause, kind, tenant := some tenant }

def client (kind : String) (tenant : Tenant) : Except Rejection Client :=
  (d.clients tenant).mapError fun text => refusal kind tenant (.tenantClient text)

def success (response : Response) : Response := { response with version := protocolVersion }

def settledWith (response : Response) : Plan m := .settled (success response) []

def requestPlan (idempotencyKey : String) (r : Request) : Except Rejection (Plan m) := do
  match d.registry.requests.find? r.action with
  | none => throw (refusal "request" r.tenant (.unknownAction r.action))
  | some route =>
    let client ← d.client "request" r.tenant
    let params : RequestParams Dict :=
      { client, action := r.action, request := r.data, config := r.config, idempotencyKey
        resourceState := r.resourceState, investigationId := r.investigationId }
    match route.call params with
    | .error e => throw (refusal "request" r.tenant (.invalidRequestData e))
    | .ok handler => return .handling "request" r.tenant handler

def eventPlan (idempotencyKey : String) (e : Event) : Except Rejection (Plan m) := do
  match d.registry.events.find? e.name with
  | none => throw (refusal "event" e.tenant (.unknownEvent e.name))
  | some route =>
    let client ← d.client "event" e.tenant
    return .handling "event" e.tenant
      (route { client, eventName := e.name, data := e.data, config := e.config, idempotencyKey })

def validationPlan (c : ConfigValidation) : Except Rejection (Plan m) := do
  -- Without a validator every configuration is good.
  let client ← d.client "config_validation" c.tenant
  match d.registry.validator with
  | none => return settledWith {}
  | some validator => return .handling "config_validation" c.tenant (validator client c.config)

def plan (message : Message) : Except Rejection (Plan m) :=
  match message.payload with
  | .error e => .error { cause := .invalidEnvelope e }
  | .ok .heartbeat => .ok (settledWith {})
  | .ok (.errorReport report) => .ok (.settled (success {}) [report])
  | .ok .schemaRequest => .ok (settledWith { data := some d.schema.toJson.normalize })
  | .ok (.configValidation c) => d.validationPlan c
  | .ok (.request r) => d.requestPlan message.idempotencyKey r
  | .ok (.event e) => d.eventPlan message.idempotencyKey e

/-! Answers. -/

def concluded (kind : String) (tenant : Tenant) : Outcome → Except Rejection Response
  | .ok reply => .ok (success reply.toResponse)
  | .error e => .error (refusal kind tenant (.handler e))

def dispatch [Monad m] (message : Message) : m Dispatched :=
  match d.plan message with
  | .error r => pure { result := .error r }
  | .ok (.settled response reports) => pure { result := .ok response, reports }
  | .ok (.handling kind tenant handler) =>
    return { result := concluded kind tenant (← handler) }

def refused (r : Rejection) : Handled :=
  -- Whoever caused a failure reads the same text as the one who is told of it.
  { answer := r.answer
    reports := [{ error := r.maskedMessage, tenantId := (r.tenant.map (·.id)).getD "" }]
    measures := [.message r.kind r.status] }

def handled (kind : String) (d : Dispatched) : Handled :=
  match d.result with
  | .ok response =>
    { answer := .json 200 response.toJson, reports := d.reports, measures := [.message kind 200] }
  | .error r => { refused r with reports := d.reports ++ (refused r).reports }

def kindOf (message : Message) : String :=
  match message.payload with
  | .ok payload => payload.kind
  | .error _ => "unknown"

/-- A call that is not signed only asks whether anybody is there. -/
def handle [Monad m] (call : Http.Call) : m Handled :=
  match signature? call with
  | none => pure { answer := .empty 200 }
  | some signature =>
    match d.admitted signature call with
    | .error cause => pure (refused { cause })
    | .ok message => return handled (kindOf message) (← d.dispatch message)

def route [Monad m] (settle : Handled → m Http.Answer) : Http.Route m :=
  ⟨"/", "POST", fun call => do settle (← d.handle call)⟩

def shown : String :=
  Text.shownPartly "Dispatcher" [("name", Text.quoted d.name), ("registry", d.registry.shown)]

end Dispatcher
end TenantRelay
