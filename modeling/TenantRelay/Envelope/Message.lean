import TenantRelay.Envelope.Tenant
import TenantRelay.Json.Shown

/-!
The envelope of inbound calls. It has a place for each kind of payload; a message
that means anything fills exactly one of them.
-/

namespace TenantRelay

open Document Text

structure ErrorReport where
  error : String := ""
  tenantId : String := ""
deriving DecidableEq

structure ConfigValidation where
  tenant : Tenant := {}
  config : Dict := ∅

structure ResourceState where
  state : Json := .null
  updatedAt : UInt64 := 0

structure Request where
  tenant : Tenant := {}
  action : String := ""
  data : Dict := ∅
  config : Dict := ∅
  resourceState : KeyMap ResourceState := ∅
  investigationId : Option String := none

structure Event where
  tenant : Tenant := {}
  name : String := ""
  data : Dict := ∅
  config : Dict := ∅

structure Message where
  version : UInt64 := 0
  idempotencyKey : String := ""
  heartbeat : Bool := false
  errorReport : Option ErrorReport := none
  configValidation : Option ConfigValidation := none
  schemaRequest : Bool := false
  request : Option Request := none
  event : Option Event := none

inductive Payload where
  | heartbeat
  | errorReport (report : ErrorReport)
  | configValidation (validation : ConfigValidation)
  | schemaRequest
  | request (request : Request)
  | event (event : Event)

namespace ErrorReport

def fields : List (RecordField ErrorReport) :=
  [.of "error" Decoder.text fun v r => { r with error := v },
   .of "oid" Decoder.text fun v r => { r with tenantId := v }]

def decoder : Decoder ErrorReport := record "ErrorReport" fields {}

def toJson (r : ErrorReport) : Json :=
  .obj ([("error", .str r.error)] ++
    Json.member? "oid" (if r.tenantId = "" then none else some (.str r.tenantId)))

def shown (r : ErrorReport) : String :=
  shownRecord "ErrorReport" [("error", quoted r.error), ("tenant_id", quoted r.tenantId)]

end ErrorReport

namespace ConfigValidation

def fields : List (RecordField ConfigValidation) :=
  [.of "org" Tenant.decoder fun v c => { c with tenant := v },
   .of "conf" Decoder.dict fun v c => { c with config := v }]

def decoder : Decoder ConfigValidation := record "ConfigValidationMessage" fields {}

def toJson (c : ConfigValidation) : Json :=
  .obj [("org", c.tenant.toJson), ("conf", .ofDict c.config)]

def shown (c : ConfigValidation) : String :=
  shownRecord "ConfigValidationMessage"
    [("tenant", c.tenant.shown), ("config", Json.shownDict c.config)]

end ConfigValidation

namespace ResourceState

def fields : List (RecordField ResourceState) :=
  [.of "state" Decoder.json fun v s => { s with state := v },
   .of "updated_at" Decoder.u64 fun v s => { s with updatedAt := v }]

def decoder : Decoder ResourceState := record "ResourceState" fields {}

def toJson (s : ResourceState) : Json :=
  .obj [("state", s.state), ("updated_at", .num (.nat s.updatedAt))]

def shown (s : ResourceState) : String :=
  shownRecord "ResourceState"
    [("state", s.state.shown), ("updated_at", toString s.updatedAt.toNat)]

end ResourceState

/-- An order in which the states of resources are listed. They have none of their own. -/
abbrev ResourceState.Listing := KeyMap ResourceState → List (String × ResourceState)

namespace Request

def fields : List (RecordField Request) :=
  [.of "org" Tenant.decoder fun v r => { r with tenant := v },
   .of "action" Decoder.text fun v r => { r with action := v },
   .of "data" Decoder.dict fun v r => { r with data := v },
   .of "config" Decoder.dict fun v r => { r with config := v },
   .of "resource_state" (Decoder.map ResourceState.decoder) fun v r => { r with resourceState := v },
   .of "inv_id" (Decoder.option Decoder.text) fun v r => { r with investigationId := v }]

def decoder : Decoder Request := record "RequestMessage" fields {}

def resourceJson (states : KeyMap ResourceState) : Option Json :=
  if states.isEmpty then none else some (.ofDict (states.map ResourceState.toJson))

def toJson (r : Request) : Json :=
  .obj ([("org", r.tenant.toJson), ("action", .str r.action), ("data", .ofDict r.data),
      ("config", .ofDict r.config)] ++
    Json.member? "resource_state" (resourceJson r.resourceState) ++
    Json.member? "inv_id" (r.investigationId.map .str))

def shown (listed : ResourceState.Listing) (r : Request) : String :=
  shownRecord "RequestMessage"
    [("tenant", r.tenant.shown), ("action", quoted r.action), ("data", Json.shownDict r.data),
     ("config", Json.shownDict r.config),
     ("resource_state",
       shownMap ((listed r.resourceState).map fun e => (quoted e.1, e.2.shown))),
     ("investigation_id", shownOption (r.investigationId.map quoted))]

end Request

namespace Event

def fields : List (RecordField Event) :=
  [.of "org" Tenant.decoder fun v e => { e with tenant := v },
   .of "event_name" Decoder.text fun v e => { e with name := v },
   .of "data" Decoder.dict fun v e => { e with data := v },
   .of "config" Decoder.dict fun v e => { e with config := v }]

def decoder : Decoder Event := record "EventMessage" fields {}

def toJson (e : Event) : Json :=
  .obj [("org", e.tenant.toJson), ("event_name", .str e.name), ("data", .ofDict e.data),
    ("config", .ofDict e.config)]

def shown (e : Event) : String :=
  shownRecord "EventMessage"
    [("tenant", e.tenant.shown), ("event_name", quoted e.name), ("data", Json.shownDict e.data),
     ("config", Json.shownDict e.config)]

end Event

namespace Payload

def kind : Payload → String
  | heartbeat => "heartbeat"
  | errorReport _ => "error_report"
  | configValidation _ => "config_validation"
  | schemaRequest => "schema_request"
  | request _ => "request"
  | event _ => "event"

def tenant? : Payload → Option Tenant
  | configValidation c => some c.tenant
  | request r => some r.tenant
  | event e => some e.tenant
  | heartbeat => none
  | errorReport _ => none
  | schemaRequest => none

def toJson : Payload → Json
  | heartbeat => .null
  | errorReport r => r.toJson
  | configValidation c => c.toJson
  | schemaRequest => .null
  | request r => r.toJson
  | event e => e.toJson

end Payload

namespace Message

def mark (what : String) : Decoder Bool :=
  let empty : Decoder Unit := record what [] ()
  fun depth tree => (Decoder.option empty depth tree).map (·.isSome)

def fields : List (RecordField Message) :=
  [.of "version" Decoder.u64 fun v m => { m with version := v },
   .of "idempotency_key" Decoder.text fun v m => { m with idempotencyKey := v },
   .of "heartbeat" (mark "HeartBeatMessage") fun v m => { m with heartbeat := v },
   .of "error_report" (Decoder.option ErrorReport.decoder) fun v m => { m with errorReport := v },
   .of "conf_validation" (Decoder.option ConfigValidation.decoder) fun v m =>
     { m with configValidation := v },
   .of "schema_request" (mark "SchemaRequestMessage") fun v m => { m with schemaRequest := v },
   .of "request" (Decoder.option Request.decoder) fun v m => { m with request := v },
   .of "event" (Decoder.option Event.decoder) fun v m => { m with event := v }]

def decoder : Decoder Message := record "Message" fields {}

def markJson (isSet : Bool) : Option Json := if isSet then some (.obj []) else none

def toJson (m : Message) : Json :=
  .obj ([("version", .num (.nat m.version)), ("idempotency_key", .str m.idempotencyKey)] ++
    Json.member? "heartbeat" (markJson m.heartbeat) ++
    Json.member? "error_report" (m.errorReport.map ErrorReport.toJson) ++
    Json.member? "conf_validation" (m.configValidation.map ConfigValidation.toJson) ++
    Json.member? "schema_request" (markJson m.schemaRequest) ++
    Json.member? "request" (m.request.map Request.toJson) ++
    Json.member? "event" (m.event.map Event.toJson))

def encode (m : Message) : Bytes := Text.Utf8.encode m.toJson.compact

def shownMark (name : String) (isSet : Bool) : String :=
  shownOption (if isSet then some name else none)

def shown (listed : ResourceState.Listing) (m : Message) : String :=
  shownRecord "Message"
    [("version", toString m.version.toNat), ("idempotency_key", quoted m.idempotencyKey),
     ("heartbeat", shownMark "HeartBeatMessage" m.heartbeat),
     ("error_report", shownOption (m.errorReport.map ErrorReport.shown)),
     ("config_validation", shownOption (m.configValidation.map ConfigValidation.shown)),
     ("schema_request", shownMark "SchemaRequestMessage" m.schemaRequest),
     ("request", shownOption (m.request.map (Request.shown listed))),
     ("event", shownOption (m.event.map Event.shown))]

/-- The payloads that are there, in the order in which the envelope lists them. -/
def payloads (m : Message) : List Payload :=
  (if m.heartbeat then [.heartbeat] else []) ++
  (m.errorReport.map Payload.errorReport).toList ++
  (m.configValidation.map Payload.configValidation).toList ++
  (if m.schemaRequest then [.schemaRequest] else []) ++
  (m.request.map Payload.request).toList ++
  (m.event.map Payload.event).toList

def payload (m : Message) : Except EnvelopeError Payload :=
  match m.payloads with
  | [] => .error .noPayload
  | [one] => .ok one
  | many => .error (.ambiguousPayload many.length)

def carrying (version : UInt64) (idempotencyKey : String) : Payload → Message
  | .heartbeat => { version, idempotencyKey, heartbeat := true }
  | .errorReport r => { version, idempotencyKey, errorReport := some r }
  | .configValidation c => { version, idempotencyKey, configValidation := some c }
  | .schemaRequest => { version, idempotencyKey, schemaRequest := true }
  | .request r => { version, idempotencyKey, request := some r }
  | .event e => { version, idempotencyKey, event := some e }

end Message
end TenantRelay
