import TenantRelay.Multiplex.Multiplexer
import TenantRelay.Proofs.Trace

/-!
What becomes of an event on its way through the front: it is relayed once, under the
client that was made for its tenant, and the status of the answer tells of a second
try only if the relayed event did.
-/

namespace TenantRelay

theorem KeyMap.find?_insertAll_map {α : Type} (value : String → α) (names : List String)
    (m : KeyMap α) (key : String) :
    (m.insertAll (names.map fun name => (name, value name))).find? key =
      if key ∈ names then some (value key) else m.find? key := by
  induction names generalizing m with
  | nil => simp [insertAll]
  | cons name rest ih =>
      -- A later name may be the same again, but its value is then the same as well.
      have step := ih (m.insert name (value name))
      simp only [insertAll, List.map_cons, List.foldl_cons] at step ⊢
      rw [step, KeyMap.find?_insert]
      by_cases later : key ∈ rest
      · simp [later]
      · by_cases same : key = name <;> simp [later, same]

namespace Dispatcher

variable {m : Type → Type} (f : Dispatcher m)

def event? (call : Http.Call) : Option (Message × Event) := do
  let signature ← signature? call
  let message ← (f.admitted signature call).toOption
  match message.payload with
  | .ok (.event e) => some (message, e)
  | _ => none

def eventParams (client : Client) (message : Message) (e : Event) : EventParams :=
  { client, eventName := e.name, data := e.data, config := e.config
    idempotencyKey := message.idempotencyKey }

variable {f} {call : Http.Call} {message : Message} {e : Event}

theorem event?_eq_some (bears : f.event? call = some (message, e)) :
    (∃ signature, signature? call = some signature ∧ f.admitted signature call = .ok message) ∧
      message.payload = .ok (.event e) := by
  obtain ⟨signature, signed, rest⟩ := Option.bind_eq_some_iff.mp bears
  obtain ⟨received, admitted, rest⟩ := Option.bind_eq_some_iff.mp rest
  split at rest
  case h_1 own payload =>
    cases rest
    refine ⟨⟨signature, signed, ?_⟩, payload⟩
    cases result : f.admitted signature call with
    | error cause => rw [result] at admitted; cases admitted
    | ok other => rw [result] at admitted; cases admitted; rfl
  case h_2 => cases rest

theorem handle_of_event? [Monad m] (bears : f.event? call = some (message, e)) :
    f.handle call = do return handled (kindOf message) (← f.dispatch message) := by
  obtain ⟨⟨signature, signed, admitted⟩, _⟩ := event?_eq_some bears
  simp only [handle, signed, admitted]

theorem plan_of_no_client {route : EventRoute m} {text : String}
    (bears : f.event? call = some (message, e))
    (known : f.registry.events.find? e.name = some route)
    (none : f.clients e.tenant = .error text) :
    f.plan message = .error (refusal "event" e.tenant (.tenantClient text)) := by
  simp only [plan, (event?_eq_some bears).2, eventPlan, known, client, none]
  rfl

theorem plan_of_client {route : EventRoute m} {client : Client}
    (bears : f.event? call = some (message, e))
    (known : f.registry.events.find? e.name = some route)
    (made : f.clients e.tenant = .ok client) :
    f.plan message = .ok (.handling "event" e.tenant (route (eventParams client message e))) := by
  simp only [plan, (event?_eq_some bears).2, eventPlan, known, Dispatcher.client, made]
  rfl

theorem status_refused (kind : String) (r : Rejection) :
    (handled kind { result := .error r }).answer.status = r.status := by
  show (r.cause.answer r.maskedMessage).status = r.cause.status
  unfold Rejection.Cause.answer
  split <;> rfl

theorem retriable_of_concluded {kind role : String} {tenant : Tenant} {outcome : Outcome}
    (again : (handled kind { result := concluded role tenant outcome }).answer.status = 503) :
    ∃ error, outcome = .error error ∧ error.retriable = true := by
  cases outcome with
  | ok reply => cases again
  | error error =>
      rw [concluded, status_refused] at again
      refine ⟨error, rfl, ?_⟩
      cases retriable : error.retriable with
      | true => rfl
      | false => simp [refusal, Rejection.status, Rejection.Cause.status, retriable] at again

end Dispatcher

namespace Multiplexer

open Site

variable (x : Multiplexer)

theorem event_route {schema : Schema} {name : String} (known : name ∈ events schema) :
    (x.registry schema).events.find? name =
      some fun p => do return outcomeOf (← x.forwardEvent p) := by
  refine (KeyMap.find?_insertAll_map _ _ _ _).trans ?_
  simp [known]

theorem lifecycle_events (schema : Schema) :
    subscribeEvent ∈ events schema ∧ unsubscribeEvent ∈ events schema := by
  simp [events]

/-- An event that is answered with 503 was relayed, came to an error that may be tried
again, and nothing was done besides relaying it. -/
theorem relayed_of_unavailable {σ : Type} {s : Surroundings σ} {f : Dispatcher Program}
    {schema : Schema} {call : Http.Call} {message : Message} {e : Event} {site : Site σ}
    (offered : f.registry = x.registry schema) (known : e.name ∈ events schema)
    (bears : f.event? call = some (message, e))
    (unavailable : (run s (f.handle call) site).1.answer.status = 503) :
    ∃ client, f.clients e.tenant = .ok client ∧
      let relayed := run s (x.forwardEvent (Dispatcher.eventParams client message e)) site
      (run s (f.handle call) site).2 = relayed.2 ∧
      ∃ error, outcomeOf relayed.1 = .error error ∧ error.retriable = true := by
  -- Both sides are run only after the gates: up to there no access is made.
  have route := offered ▸ x.event_route known
  rw [Dispatcher.handle_of_event? bears] at unavailable ⊢
  cases made : f.clients e.tenant with
  | error text =>
      -- A client that cannot be made is answered with 500.
      rw [Dispatcher.dispatch, Dispatcher.plan_of_no_client bears route made] at unavailable
      have refused := Dispatcher.status_refused (Dispatcher.kindOf message)
        (Dispatcher.refusal "event" e.tenant (.tenantClient text))
      cases refused.symm.trans unavailable
  | ok client =>
      refine ⟨client, rfl, ?_⟩
      rw [Dispatcher.dispatch, Dispatcher.plan_of_client bears route made] at unavailable ⊢
      simp only [run_bind, run_pure, true_and] at unavailable ⊢
      exact Dispatcher.retriable_of_concluded unavailable

def relay : Dispatcher Program := dispatcher {} "relay" "key" {}

def letter (name : String) : Http.Call :=
  let event : Event := { tenant := ⟨"acme", "token", none⟩, name }
  Dispatcher.signed (Text.Utf8.encode relay.secret)
    { method := "POST", path := "/", headers := []
      body := (Message.carrying protocolVersion "once" (.event event)).encode }

end Multiplexer
end TenantRelay
