import TenantRelay.Proofs.Delivery
import TenantRelay.Proofs.FairWorld
import TenantRelay.Proofs.Front

/-!
The end of a subscription. The instance is told and then taken down, whatever became
of telling it. What became of it is reported only when the instance is gone, and then
for good.
-/

namespace TenantRelay.Multiplexer

open Site

def failed : Except MultiplexError Response → Bool
  | .ok r => r.isError
  | .error _ => true

/-- What the end of a subscription comes to, by what became of telling the instance and
of taking it down. -/
inductive Teardown (tenant : String) (told : Except MultiplexError Response) (after : Scene) :
    Except DirectoryError Unit → Except MultiplexError Response → Prop where
  | standing {e : DirectoryError} : Teardown tenant told after (.error e) (.error (.directory e))
  | gone {result : Except MultiplexError Response} :
      after.estate.stored tenant = none → after.cache.entries.find? tenant = none →
      after.estate.running tenant = false →
      ((∃ error, outcomeOf result = .error error) ↔ failed told = true) →
      (∀ error, outcomeOf result = .error error → error.retriable = false) →
      Teardown tenant told after (.ok ()) result

def reported (told : Except MultiplexError Response) :
    Except DirectoryError Unit → Except MultiplexError Response
  | .error e => .error (.directory e)
  | .ok () => settled told

theorem Teardown.standing_of_retriable {tenant : String} {after : Scene}
    {told result : Except MultiplexError Response} {down : Except DirectoryError Unit}
    {error : HandlerError}
    (teardown : Teardown tenant told after down result)
    (failure : outcomeOf result = .error error) (again : error.retriable = true) :
    ∃ e, down = .error e := by
  cases teardown with
  | @standing e => exact ⟨e, rfl⟩
  | gone _ _ _ _ final =>
      rw [final error failure] at again
      cases again

/-- Once the instance is gone a failure stays one, and none is worth another try. -/
theorem outcomeOf_settled (told : Except MultiplexError Response) :
    ((∃ error, outcomeOf (settled told) = .error error) ↔ failed told = true) ∧
    ∀ error, outcomeOf (settled told) = .error error → error.retriable = false := by
  cases told with
  | error e =>
      constructor
      · exact ⟨fun _ => rfl, fun _ => ⟨_, rfl⟩⟩
      · intro error same
        cases same
        rfl
  | ok r =>
      cases isError : r.isError with
      | true =>
          -- Whether an answer tells of a failure does not hang on whether to try again.
          have still : ({ r with retriable := some false } : Response).isError = true := isError
          simp [settled, outcomeOf, Outcome.ofResponse, failed, isError, still,
            Response.isRetriable]
      | false => simp [settled, outcomeOf, Outcome.ofResponse, failed, isError]

variable (x : Multiplexer)

theorem forwardEvent_unsubscribe {p : EventParams} (named : p.eventName = unsubscribeEvent) :
    x.forwardEvent p = x.unsubscribe p.client.access (eventMessage p) := by
  have other : ¬unsubscribeEvent = subscribeEvent := by decide
  simp only [forwardEvent, named, other, ↓reduceIte]

section
variable {σ : Type} {s : Surroundings σ} {view : σ → Estate}

theorem unsubscribe_trace (tenant : Tenant) (message : Message) (site : Site σ) :
    trace s (x.unsubscribe tenant message) site =
      trace s (x.forward tenant message unsubscribeEvent) site ++
        trace s (Directory.deprovision tenant.id)
          (run s (x.forward tenant message unsubscribeEvent) site).2 := by
  unfold unsubscribe
  rw [trace_bind, trace_bind]
  -- Nothing happens any more once both are done, however they ended.
  cases (run s (Directory.deprovision tenant.id)
    (run s (x.forward tenant message unsubscribeEvent) site).2).1 <;>
    simp only [trace_pure, List.append_nil]

theorem unsubscribe_run (tenant : Tenant) (message : Message) (site : Site σ) :
    run s (x.unsubscribe tenant message) site =
      let told := run s (x.forward tenant message unsubscribeEvent) site
      let down := run s (Directory.deprovision tenant.id) told.2
      (reported told.1 down.1, down.2) := by
  unfold unsubscribe
  simp only [run_bind]
  cases (run s (Directory.deprovision tenant.id)
    (run s (x.forward tenant message unsubscribeEvent) site).2).1 <;> rfl

theorem teardown_of_unregistration {tenant : String} {told : Except MultiplexError Response}
    {down : Except DirectoryError Unit} {y z : Scene} {hs : List Happening}
    (unregistration : Directory.Unregistration tenant y down hs z) :
    Teardown tenant told z down (reported told down) := by
  cases down with
  | error e => exact .standing
  | ok _ =>
      -- Only now it matters what became of the message.
      obtain ⟨unstored, uncached, stopped⟩ := unregistration.gone
      obtain ⟨same, final⟩ := outcomeOf_settled told
      exact .gone unstored uncached stopped same final

/-- An event that ends a subscription is forwarded, the instance is taken down next
whatever became of that, and the two decide the result. A call with such an event is
answered with 503 only if the instance could not be taken down. -/
theorem unsubscribe_tears_down {failing : DirectoryError → Prop} (d : Dependable s view failing) :
    (∀ (p : EventParams) (site : Site σ), p.eventName = unsubscribeEvent →
      let forwarding := x.forward p.client.access (eventMessage p) unsubscribeEvent
      let removing := Directory.deprovision p.client.access.id
      let told := run s forwarding site
      let down := run s removing told.2
      trace s (x.forwardEvent p) site = trace s forwarding site ++ trace s removing told.2 ∧
      (run s (x.forwardEvent p) site).2 = down.2 ∧
      Teardown p.client.access.id told.1 (down.2.scene view) down.1
        (run s (x.forwardEvent p) site).1) ∧
    ∀ (f : Dispatcher Program) (schema : Schema) (call : Http.Call) (message : Message) (e : Event)
      (site : Site σ), f.registry = x.registry schema → f.event? call = some (message, e) →
      e.name = unsubscribeEvent → (run s (f.handle call) site).1.answer.status = 503 →
      ∃ client, f.clients e.tenant = .ok client ∧
        let p := Dispatcher.eventParams client message e
        let told := run s (x.forward client.access (eventMessage p) unsubscribeEvent) site
        ∃ error, (run s (Directory.deprovision client.access.id) told.2).1 = .error error := by
  have relayed : ∀ (p : EventParams) (site : Site σ), p.eventName = unsubscribeEvent →
      let told := run s (x.forward p.client.access (eventMessage p) unsubscribeEvent) site
      let down := run s (Directory.deprovision p.client.access.id) told.2
      Teardown p.client.access.id told.1 (down.2.scene view) down.1
        (run s (x.forwardEvent p) site).1 := by
    intro p site named told down
    obtain ⟨hs, _, unregistration⟩ :=
      Directory.deprovision_unregisters d p.client.access.id told.2
    rw [x.forwardEvent_unsubscribe named, x.unsubscribe_run]
    exact teardown_of_unregistration unregistration
  constructor
  · intro p site named forwarding removing told down
    refine ⟨?_, ?_, relayed p site named⟩
    · rw [x.forwardEvent_unsubscribe named, x.unsubscribe_trace]
    · rw [x.forwardEvent_unsubscribe named, x.unsubscribe_run]
  · intro f schema call message e site offered bears named unavailable
    have known : e.name ∈ events schema := named ▸ (lifecycle_events schema).2
    obtain ⟨client, made, _, error, failure, again⟩ :=
      x.relayed_of_unavailable offered known bears unavailable
    refine ⟨client, made, ?_⟩
    have teardown := relayed (Dispatcher.eventParams client message e) site named
    exact teardown.standing_of_retriable failure again

end

def busy : FairWorld :=
  -- A world whose instances cannot be destroyed just now.
  .facing { destroy := .standing (some (.api 503 "busy")) }
    { get := by simp [Script.Holds]
      put := by simp [Script.Holds]
      delete := by simp [Script.Holds]
      destroy := by simp [Script.Holds, ProvisionError.isNotFound] }

/-- A signed call is answered with 503 while the instance cannot be taken down. -/
theorem unsubscribe_tears_down_when_busy :
    (run FairWorld.accepting (relay.handle (letter unsubscribeEvent))
      { outside := busy }).1.answer.status = 503 ∧
    ∃ message e client, relay.event? (letter unsubscribeEvent) = some (message, e) ∧
      e.name = unsubscribeEvent ∧ relay.clients e.tenant = .ok client ∧
      let p := Dispatcher.eventParams client message e
      let told := run FairWorld.accepting
        (forward {} client.access (eventMessage p) unsubscribeEvent) { outside := busy }
      let down := run FairWorld.accepting (Directory.deprovision client.access.id) told.2
      (∃ error, down.1 = .error error) ∧
      Teardown client.access.id told.1 (down.2.scene FairWorld.estate) down.1
        (run FairWorld.accepting (forwardEvent {} p) { outside := busy }).1 := by
  -- Both are evaluated at once: what the call says is then read only once.
  have answer : (relay.event? (letter unsubscribeEvent)).map (·.2.name) = some unsubscribeEvent ∧
      (run FairWorld.accepting (relay.handle (letter unsubscribeEvent))
        { outside := busy }).1.answer.status = 503 := by
    decide +kernel
  obtain ⟨borne, unavailable⟩ := answer
  obtain ⟨⟨message, e⟩, bears, named⟩ := Option.map_eq_some_iff.mp borne
  obtain ⟨relayed, answered⟩ := unsubscribe_tears_down {} FairWorld.accepting_dependable
  obtain ⟨client, made, error⟩ :=
    answered relay {} _ message e { outside := busy } rfl bears named unavailable
  have teardown := relayed (Dispatcher.eventParams client message e) { outside := busy } named
  exact ⟨unavailable, message, e, client, bears, named, made, error, teardown.2.2⟩

end TenantRelay.Multiplexer
