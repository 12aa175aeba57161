import TenantRelay.Directory.Service
import TenantRelay.Dispatch.Dispatcher
import TenantRelay.Forward.Forwarder
import TenantRelay.Protocol

/-!
Relaying each call to the instance of its tenant. A subscription makes the instance,
and takes it down again if the instance does not accept; the end of a subscription
takes it down whatever the instance says.
-/

namespace TenantRelay

open Program

def subscribeEvent : String := "subscribe"

def unsubscribeEvent : String := "unsubscribe"

structure Multiplexer where
  forwarder : Forwarder := {}
deriving DecidableEq

abbrev Relayed := Program (Except MultiplexError Response)

namespace Multiplexer

variable (x : Multiplexer)

/-- A message is looked at before it is signed and its answer before it is relayed. -/
def sendTo (entry : Entry) (tenant : Tenant) (message : Message) (target : String) : Relayed := do
  match ← call (.outbound tenant message) with
  | .error e => return .error e
  | .ok message =>
    match ← x.forwarder.send entry.address entry.secret message target with
    | .error e => return .error (.forward e)
    | .ok r => call (.inbound tenant message r)

def forward (tenant : Tenant) (message : Message) (target : String) : Relayed := do
  match ← Directory.resolve tenant.id with
  | .error e => return .error (.directory e)
  | .ok entry => x.sendTo entry tenant message target

def objection : Except MultiplexError Response → Option String
  | .ok r => if r.isError then some r.error else none
  | .error e => some e.message

def undoSubscribe (tenant : String) (failure : String)
    (result : Except MultiplexError Response) : Relayed := do
  match ← Directory.deprovision tenant with
  | .error e => return .error (.rollback failure e.message)
  | .ok () => return result

def subscribeNew (tenant : Tenant) (message : Message) : Relayed := do
  match ← Directory.provision tenant.id with
  | .error e => return .error (.directory e)
  | .ok entry =>
    let result ← x.sendTo entry tenant message subscribeEvent
    match objection result with
    | none => return result
    | some failure => undoSubscribe tenant.id failure result

/-- A tenant that has an instance is only told again. -/
def subscribe (tenant : Tenant) (message : Message) : Relayed := do
  match ← Directory.resolve tenant.id with
  | .ok entry => x.sendTo entry tenant message subscribeEvent
  | .error e =>
    if e.isNotFound then x.subscribeNew tenant message
    else return .error (.directory e)

/-- Once the instance is gone no second try can reach it. -/
def settled : Except MultiplexError Response → Except MultiplexError Response
  | .ok r => .ok (if r.isError then { r with retriable := some false } else r)
  | .error e => .error (.fatal e.message)

def unsubscribe (tenant : Tenant) (message : Message) : Relayed := do
  let result ← x.forward tenant message unsubscribeEvent
  match ← Directory.deprovision tenant.id with
  | .error e => return .error (.directory e)
  | .ok () => return settled result

/-! What handlers relay. -/

def requestMessage (p : RequestParams Dict) : Message :=
  .carrying protocolVersion p.idempotencyKey (.request
    { tenant := p.client.access, action := p.action, data := p.request, config := p.config
      resourceState := p.resourceState, investigationId := p.investigationId })

def eventMessage (p : EventParams) : Message :=
  .carrying protocolVersion p.idempotencyKey (.event
    { tenant := p.client.access, name := p.eventName, data := p.data, config := p.config })

def validationMessage (client : Client) (config : Dict) : Message :=
  .carrying protocolVersion "" (.configValidation { tenant := client.access, config })

def forwardRequest (p : RequestParams Dict) : Relayed :=
  x.forward p.client.access (requestMessage p) p.action

def forwardEvent (p : EventParams) : Relayed :=
  if p.eventName = subscribeEvent then x.subscribe p.client.access (eventMessage p)
  else if p.eventName = unsubscribeEvent then x.unsubscribe p.client.access (eventMessage p)
  else x.forward p.client.access (eventMessage p) p.eventName

def forwardValidation (client : Client) (config : Dict) : Relayed :=
  x.forward client.access (validationMessage client config) "config_validation"

def outcomeOf : Except MultiplexError Response → Outcome
  | .ok r => .ofResponse r
  | .error e => .error e.toHandlerError

/-! The front. -/

/-- The lifecycle events are taken whether or not the schema asks for them. -/
def events (s : Schema) : List String := s.requiredEvents ++ [subscribeEvent, unsubscribeEvent]

def registry (s : Schema) : Registry Program :=
  { requests := .ofList (s.actions.map fun action =>
      (action, .untyped fun p => return outcomeOf (← x.forwardRequest p)))
    events := .ofList ((events s).map fun name =>
      (name, fun p => return outcomeOf (← x.forwardEvent p)))
    validator := some fun client config => return outcomeOf (← x.forwardValidation client config) }

/-- A dispatcher that offers what the instances offer and leaves the work to them. -/
def dispatcher (name secret : String) (s : Schema) : Dispatcher Program :=
  { name, secret, registry := x.registry s, offer := .ofSchema s }

def shown (directory : String) : String :=
  Text.shownPartly "Multiplexer" [("directory", directory), ("forwarder", x.forwarder.shown)]

end Multiplexer

namespace Dispatcher

def countAll : List Measure → Program Unit
  | [] => return ()
  | measure :: rest => do
    call (.count measure)
    countAll rest

def counting (h : Handled) : Program Http.Answer := do
  countAll h.measures
  return h.answer

end Dispatcher
end TenantRelay
