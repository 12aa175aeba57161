import TenantRelay.Dispatch.Client
import TenantRelay.Dispatch.Outcome
import TenantRelay.Envelope.Message
import TenantRelay.Json.Reader

/-! The handlers of one extension, by the names of the actions and events they take. -/

namespace TenantRelay

open Text Document

variable {m : Type → Type}

structure RequestParams (data : Type) where
  client : Client
  action : String
  request : data
  config : Dict
  idempotencyKey : String
  resourceState : KeyMap ResourceState
  investigationId : Option String

structure EventParams where
  client : Client
  eventName : String
  data : Dict
  config : Dict
  idempotencyKey : String

/-- A handler of requests. One that wants its data in a type of its own may refuse
the data before it runs. -/
structure RequestRoute (m : Type → Type) where
  call : RequestParams Dict → Except DecodeError (m Outcome)
  typed : Bool

def RequestRoute.untyped (handler : RequestParams Dict → m Outcome) : RequestRoute m :=
  ⟨fun params => .ok (handler params), false⟩

def RequestRoute.decoding {data : Type} (decoder : Decoder data)
    (handler : RequestParams data → m Outcome) : RequestRoute m :=
  ⟨fun params => do
    let request ← Json.convert decoder (.ofDict params.request)
    return handler { params with request }, true⟩

abbrev EventRoute (m : Type → Type) := EventParams → m Outcome

abbrev Validator (m : Type → Type) := Client → Dict → m Outcome

structure Registry (m : Type → Type) where
  requests : KeyMap (RequestRoute m) := ∅
  events : KeyMap (EventRoute m) := ∅
  validator : Option (Validator m) := none
  hasSink : Bool := false

namespace Registry

def actions (r : Registry m) : List String := r.requests.keys

def eventNames (r : Registry m) : List String := r.events.keys

/-- A handler takes the place of one registered before it under the same name. -/
def onRequest (r : Registry m) (action : String) (route : RequestRoute m) : Registry m :=
  { r with requests := r.requests.insert action route }

def onEvent (r : Registry m) (name : String) (route : EventRoute m) : Registry m :=
  { r with events := r.events.insert name route }

def shown (r : Registry m) : String :=
  shownRecord "HandlerRegistry"
    [("requests", shownList (r.actions.map quoted)), ("events", shownList (r.eventNames.map quoted)),
     ("validator", shownBool r.validator.isSome), ("error_sink", shownBool r.hasSink)]

end Registry
end TenantRelay
