import TenantRelay.Proofs.Front
import TenantRelay.Proofs.Signing

/-!
What a front does with a call. It relays the call to the instance of one tenant, by one
activity that depends on what the call bears, or it answers the call on its own. Whatever a
call bears is passed on whole: only the version of the message is the front's own.
-/

namespace TenantRelay

namespace Dispatcher

variable {m : Type → Type} (f : Dispatcher m)

def message? (call : Http.Call) : Option Message := do
  let signature ← signature? call
  (f.admitted signature call).toOption

variable {f} {call : Http.Call} {message : Message}

theorem message?_eq_some (bears : f.message? call = some message) :
    ∃ signature, signature? call = some signature ∧ f.admitted signature call = .ok message := by
  obtain ⟨signature, signed, rest⟩ := Option.bind_eq_some_iff.mp bears
  refine ⟨signature, signed, ?_⟩
  cases result : f.admitted signature call with
  | error cause =>
      rw [result] at rest
      cases rest
  | ok received =>
      rw [result] at rest
      cases rest
      rfl

/-! A whole call that is signed with the front's secret bears what its body says, whatever
else its headers tell, as long as they do not say that it is packed. -/

section
variable {body : Bytes} {method path : String} {headers : Http.Headers}

theorem signature?_signed {secret : Bytes} :
    signature? (signed secret ⟨method, path, headers, body, none⟩) =
      some (Signature.sign secret body) := by
  obtain ⟨b, rest, bytes⟩ := Signature.exists_encode_sign secret body
  have read := Signature.headerText?_sign secret body
  rw [bytes] at read
  simp only [signature?, signed, Http.Headers.get?, List.find?_cons, beq_self_eq_true,
    Option.map_some, bytes, read, Option.getD_some]

theorem admitted_signed (unpacked : headers.get? "content-encoding" = none)
    (short : body.length ≤ f.maxBody) :
    f.admitted (Signature.sign (Text.Utf8.encode f.secret) body)
        (signed (Text.Utf8.encode f.secret) ⟨method, path, headers, body, none⟩) =
      (Json.parse Message.decoder body).mapError .invalidMessage := by
  have whole : f.readBody (signed (Text.Utf8.encode f.secret) ⟨method, path, headers, body, none⟩) =
      .ok body := by
    simp only [readBody, signed, Nat.not_lt.mpr short, ↓reduceIte]
  have plain : f.unpack (signed (Text.Utf8.encode f.secret) ⟨method, path, headers, body, none⟩)
      body = .ok body := by
    have other : (Signature.header == "content-encoding") = false := by decide
    have still : Http.Headers.get? ((Signature.header,
        Text.Utf8.encode (Signature.sign (Text.Utf8.encode f.secret) body)) :: headers)
        "content-encoding" = none := by
      simpa only [Http.Headers.get?, List.find?_cons, other] using unpacked
    simp only [unpack, isPacked, signed, still, Option.bind_none, Option.any_none,
      Bool.false_eq_true, ↓reduceIte]
  have verified := Signature.verify_sign (Text.Utf8.encode f.secret) body
  simp only [admitted, whole, bind, Except.bind, verified, ↓reduceIte, plain]

theorem message?_signed_unpacked (unpacked : headers.get? "content-encoding" = none)
    (short : body.length ≤ f.maxBody) :
    f.message? (signed (Text.Utf8.encode f.secret) ⟨method, path, headers, body, none⟩) =
      (Json.parse Message.decoder body).toOption := by
  simp only [message?, signature?_signed, bind, Option.bind, admitted_signed unpacked short]
  cases Json.parse Message.decoder body <;> rfl

theorem message?_signed (short : body.length ≤ f.maxBody) :
    f.message? (signed (Text.Utf8.encode f.secret) ⟨method, path, [], body, none⟩) =
      (Json.parse Message.decoder body).toOption :=
  message?_signed_unpacked rfl short

end

theorem handle_of_message? [Monad m] (bears : f.message? call = some message) :
    f.handle call = do return handled (kindOf message) (← f.dispatch message) := by
  obtain ⟨signature, signed, admitted⟩ := message?_eq_some bears
  simp only [handle, signed, admitted]

theorem handle_of_no_message [Monad m] (bears : f.message? call = none) :
    ∃ h, f.handle call = pure h := by
  unfold handle
  cases signed : signature? call with
  | none => exact ⟨_, rfl⟩
  | some signature =>
      cases admitted : f.admitted signature call with
      | error cause =>
          simp only [admitted]
          exact ⟨_, rfl⟩
      | ok received => simp [message?, signed, admitted, Except.toOption] at bears

theorem dispatch_of_plan [Monad m] {kind : String} {tenant : Tenant} {handler : m Outcome}
    (planned : f.plan message = .ok (.handling kind tenant handler)) :
    f.dispatch message = do return { result := concluded kind tenant (← handler) } := by
  simp only [dispatch, planned]

theorem dispatch_cases [Monad m] (message : Message) :
    (∃ d, f.dispatch message = pure d) ∨
      ∃ kind tenant handler, f.plan message = .ok (.handling kind tenant handler) := by
  unfold dispatch
  cases planned : f.plan message with
  | error r => exact Or.inl ⟨_, rfl⟩
  | ok plan =>
      cases plan with
      | settled response reports => exact Or.inl ⟨_, rfl⟩
      | handling kind tenant handler => exact Or.inr ⟨kind, tenant, handler, rfl⟩

theorem client_of_valid {kind : String} {tenant : Tenant} (usual : f.clients = .default)
    (valid : tenant.validate = .ok ()) : f.client kind tenant = .ok ⟨tenant⟩ := by
  simp only [Dispatcher.client, usual, ClientFactory.default, valid, mapError_ok]

theorem client_of_invalid {kind : String} {tenant : Tenant} {e : EnvelopeError}
    (usual : f.clients = .default) (invalid : tenant.validate = .error e) :
    f.client kind tenant = .error (refusal kind tenant (.tenantClient e.message)) := by
  simp only [Dispatcher.client, usual, ClientFactory.default, invalid, mapError_error]

end Dispatcher

namespace Multiplexer

open Dispatcher

variable (x : Multiplexer) (schema : Schema)

/-- A front that offers what the instances offer, and takes every complete access. -/
structure Fronts (f : Dispatcher Program) : Prop where
  registry : f.registry = x.registry schema
  clients : f.clients = .default

theorem dispatcher_fronts (name secret : String) :
    x.Fronts schema (x.dispatcher name secret schema) :=
  ⟨rfl, rfl⟩

theorem relay_fronts : Fronts {} {} relay := dispatcher_fronts {} {} "relay" "key"

inductive Passes (message : Message) : Tenant → Message → String → Prop where
  | request {r : Request} : message.payload = .ok (.request r) → r.action ∈ schema.actions →
      Passes message r.tenant
        (.carrying protocolVersion message.idempotencyKey (.request r)) r.action
  | event {e : Event} : message.payload = .ok (.event e) → e.name ∈ events schema →
      e.name ≠ subscribeEvent → e.name ≠ unsubscribeEvent →
      Passes message e.tenant (.carrying protocolVersion message.idempotencyKey (.event e)) e.name
  | validation {c : ConfigValidation} : message.payload = .ok (.configValidation c) →
      Passes message c.tenant (.carrying protocolVersion "" (.configValidation c))
        "config_validation"

inductive Relays (message : Message) : Tenant → Message → Relayed → Prop where
  | passed {tenant : Tenant} {sent : Message} {target : String} :
      Passes schema message tenant sent target →
      Relays message tenant sent (x.forward tenant sent target)
  | subscribe {e : Event} : message.payload = .ok (.event e) → e.name = subscribeEvent →
      Relays message e.tenant (.carrying protocolVersion message.idempotencyKey (.event e))
        (x.subscribe e.tenant (.carrying protocolVersion message.idempotencyKey (.event e)))
  | unsubscribe {e : Event} : message.payload = .ok (.event e) → e.name = unsubscribeEvent →
      Relays message e.tenant (.carrying protocolVersion message.idempotencyKey (.event e))
        (x.unsubscribe e.tenant (.carrying protocolVersion message.idempotencyKey (.event e)))

variable {x schema} {f : Dispatcher Program} {call : Http.Call} {message sent : Message}
  {tenant : Tenant} {work : Relayed}

theorem find?_request {action : String} : (x.registry schema).requests.find? action =
    if action ∈ schema.actions then
      some (.untyped fun p => return outcomeOf (← x.forwardRequest p)) else none :=
  KeyMap.find?_insertAll_map _ _ _ _

theorem find?_event {name : String} : (x.registry schema).events.find? name =
    if name ∈ events schema then some fun p => return outcomeOf (← x.forwardEvent p) else none :=
  KeyMap.find?_insertAll_map _ _ _ _

theorem forwardEvent_passed {e : Event} (other : e.name ≠ subscribeEvent)
    (another : e.name ≠ unsubscribeEvent) :
    x.forwardEvent (eventParams ⟨e.tenant⟩ message e) =
      x.forward e.tenant (.carrying protocolVersion message.idempotencyKey (.event e)) e.name := by
  simp only [forwardEvent, eventParams, other, another, ↓reduceIte]
  rfl

theorem forwardEvent_joining {e : Event} (joins : e.name = subscribeEvent) :
    x.forwardEvent (eventParams ⟨e.tenant⟩ message e) =
      x.subscribe e.tenant (.carrying protocolVersion message.idempotencyKey (.event e)) := by
  simp only [forwardEvent, eventParams, joins, ↓reduceIte]
  rw [← joins]
  rfl

theorem forwardEvent_leaving {e : Event} (leaves : e.name = unsubscribeEvent) :
    x.forwardEvent (eventParams ⟨e.tenant⟩ message e) =
      x.unsubscribe e.tenant (.carrying protocolVersion message.idempotencyKey (.event e)) := by
  have different : unsubscribeEvent ≠ subscribeEvent := by decide
  simp only [forwardEvent, eventParams, leaves, different, ↓reduceIte]
  rw [← leaves]
  rfl

theorem plan_of_event {e : Event} (fronts : x.Fronts schema f)
    (valid : e.tenant.validate = .ok ()) (bears : message.payload = .ok (.event e))
    (known : e.name ∈ events schema) :
    f.plan message = .ok (.handling "event" e.tenant
      (do return outcomeOf (← x.forwardEvent (eventParams ⟨e.tenant⟩ message e)))) := by
  simp only [plan, bears, eventPlan, fronts.registry, find?_event, known, ↓reduceIte,
    client_of_valid fronts.clients valid]
  rfl

/-- Whatever a front relays a message by, it goes through with it and answers with what
comes back. -/
theorem plan_of_relays (fronts : x.Fronts schema f) (valid : tenant.validate = .ok ())
    (relays : x.Relays schema message tenant sent work) :
    ∃ kind, f.plan message = .ok (.handling kind tenant (do return outcomeOf (← work))) := by
  cases relays with
  | passed passes =>
      cases passes with
      | @request r bears known =>
          refine ⟨"request", ?_⟩
          simp only [plan, bears, requestPlan, fronts.registry, find?_request, known, ↓reduceIte,
            client_of_valid fronts.clients valid]
          rfl
      | event bears known other another =>
          refine ⟨"event", ?_⟩
          rw [plan_of_event fronts valid bears known, forwardEvent_passed other another]
      | validation bears =>
          refine ⟨"config_validation", ?_⟩
          simp only [plan, bears, validationPlan, fronts.registry,
            client_of_valid fronts.clients valid]
          rfl
  | subscribe bears joins =>
      have known := joins ▸ (lifecycle_events schema).1
      exact ⟨"event", by rw [plan_of_event fronts valid bears known, forwardEvent_joining joins]⟩
  | unsubscribe bears leaves =>
      have known := leaves ▸ (lifecycle_events schema).2
      exact ⟨"event", by rw [plan_of_event fronts valid bears known, forwardEvent_leaving leaves]⟩

theorem relays_of_event {e : Event} (bears : message.payload = .ok (.event e))
    (known : e.name ∈ events schema) : ∃ sent work, x.Relays schema message e.tenant sent work := by
  by_cases joins : e.name = subscribeEvent
  · exact ⟨_, _, .subscribe bears joins⟩
  · by_cases leaves : e.name = unsubscribeEvent
    · exact ⟨_, _, .unsubscribe bears leaves⟩
    · exact ⟨_, _, .passed (.event bears known joins leaves)⟩

/-- There is nothing else that a front has handled. -/
theorem relays_of_plan {kind : String} {handler : Program Outcome} (fronts : x.Fronts schema f)
    (planned : f.plan message = .ok (.handling kind tenant handler)) :
    tenant.validate = .ok () ∧ ∃ sent work, x.Relays schema message tenant sent work := by
  unfold plan at planned
  cases payload : message.payload with
  | error e =>
      rw [payload] at planned
      cases planned
  | ok bears =>
      rw [payload] at planned
      cases bears with
      | heartbeat => cases planned
      | errorReport report => cases planned
      | schemaRequest => cases planned
      | configValidation c =>
          cases valid : c.tenant.validate with
          | error e =>
              simp only [validationPlan, client_of_invalid fronts.clients valid] at planned
              cases planned
          | ok _ =>
              simp only [validationPlan, client_of_valid fronts.clients valid,
                fronts.registry] at planned
              cases planned
              exact ⟨valid, _, _, .passed (.validation payload)⟩
      | request r =>
          by_cases known : r.action ∈ schema.actions
          · simp only [requestPlan, fronts.registry, find?_request, known, ↓reduceIte] at planned
            cases valid : r.tenant.validate with
            | error e =>
                simp only [client_of_invalid fronts.clients valid] at planned
                cases planned
            | ok _ =>
                simp only [client_of_valid fronts.clients valid] at planned
                cases planned
                exact ⟨valid, _, _, .passed (.request payload known)⟩
          · simp only [requestPlan, fronts.registry, find?_request, known, ↓reduceIte] at planned
            cases planned
      | event e =>
          by_cases known : e.name ∈ events schema
          · simp only [eventPlan, fronts.registry, find?_event, known, ↓reduceIte] at planned
            cases valid : e.tenant.validate with
            | error e =>
                simp only [client_of_invalid fronts.clients valid] at planned
                cases planned
            | ok _ =>
                simp only [client_of_valid fronts.clients valid] at planned
                cases planned
                exact ⟨valid, relays_of_event payload known⟩
          · simp only [eventPlan, fronts.registry, find?_event, known, ↓reduceIte] at planned
            cases planned

theorem handle_of_relays (fronts : x.Fronts schema f) (valid : tenant.validate = .ok ())
    (bears : f.message? call = some message) (relays : x.Relays schema message tenant sent work) :
    ∃ kind, f.handle call = do
      return handled (kindOf message) { result := concluded kind tenant (outcomeOf (← work)) } := by
  obtain ⟨kind, planned⟩ := plan_of_relays fronts valid relays
  refine ⟨kind, ?_⟩
  rw [handle_of_message? bears, dispatch_of_plan planned]
  simp only [bind_assoc, pure_bind]

/-- A front relays a call to the instance of one tenant and answers with what comes back, or
it answers on its own. -/
theorem handle_cases (fronts : x.Fronts schema f) (call : Http.Call) :
    (∃ h, f.handle call = pure h) ∨
    ∃ message tenant sent work kind, f.message? call = some message ∧
      x.Relays schema message tenant sent work ∧ f.handle call = do
        return handled (kindOf message) { result := concluded kind tenant (outcomeOf (← work)) } := by
  cases bears : f.message? call with
  | none => exact Or.inl (handle_of_no_message bears)
  | some message =>
      rcases f.dispatch_cases message with ⟨d, settled⟩ | ⟨kind, tenant, handler, planned⟩
      · left
        rw [handle_of_message? bears, settled]
        exact ⟨_, rfl⟩
      · right
        obtain ⟨valid, sent, work, relays⟩ := relays_of_plan fronts planned
        obtain ⟨kind, same⟩ := handle_of_relays fronts valid bears relays
        exact ⟨message, tenant, sent, work, kind, rfl, relays, same⟩

end Multiplexer
end TenantRelay
