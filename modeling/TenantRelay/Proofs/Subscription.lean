import TenantRelay.Proofs.Delivery
import TenantRelay.Proofs.FairWorld
import TenantRelay.Proofs.Front

/-!
A subscription takes place as a whole or not at all. Where making or removing the
instance got stuck halfway, the error says so, and says that trying again is of no use.
-/

namespace TenantRelay

/-- A tenant that is registered, or of whom there is nothing. -/
inductive Scene.Whole (tenant : String) (x : Scene) : Prop where
  | registered {entry : Entry} : x.estate.stored tenant = some entry →
      x.estate.running tenant = true →
      (∀ cached, x.cache.entries.find? tenant = some cached → cached = entry) → Whole tenant x
  | absent : x.estate.stored tenant = none → x.estate.running tenant = false →
      x.cache.entries.find? tenant = none → Whole tenant x

namespace Directory

variable {tenant : String} {x y : Scene} {hs : List Happening}

/-! What the cases of the directory's activities have in common. -/

theorem Resolution.posted_eq_nil {result : Except DirectoryError Entry}
    (resolution : Resolution tenant x result hs y) : posted hs = [] := by
  cases resolution with
  | hit _ => rfl
  | read missed _ => cases missed <;> rfl
  | absent missed _ => cases missed <;> rfl
  | failed missed _ => cases missed <;> rfl

theorem Resolution.registered_of_whole {entry : Entry} (whole : x.Whole tenant)
    (resolution : Resolution tenant x (.ok entry) hs y) :
    x.estate.stored tenant = some entry ∧ x.estate.running tenant = true := by
  cases whole with
  | registered stored running cached =>
      -- What is cached may be answered without the store, so it has to be the same.
      cases resolution with
      | hit held => exact ⟨cached entry held ▸ stored, running⟩
      | read _ held => exact ⟨held, running⟩
  | absent stored _ uncached =>
      cases resolution with
      | hit held => rw [uncached] at held; cases held
      | read _ held => rw [stored] at held; cases held

theorem Resolution.eq_of_cached {entry cached : Entry}
    (resolution : Resolution tenant x (.ok entry) hs y)
    (found : y.cache.entries.find? tenant = some cached) : cached = entry := by
  cases resolution with
  | hit held => exact Option.some.inj (found.symm.trans held)
  | @read _ _ c _ _ _ missed _ =>
      have lacking : c.entries.find? tenant = none := by
        cases missed with
        | absent lacking => exact lacking
        | expired => rfl
      rw [Cache.find?_insert] at found
      split at found
      · exact (Option.some.inj found).symm
      · rw [lacking] at found
        cases found

theorem Resolution.absent_of_whole {e : DirectoryError} (whole : x.Whole tenant)
    (unknown : e.isNotFound = true) (resolution : Resolution tenant x (.error e) hs y) :
    y.estate.stored tenant = none ∧ y.estate.running tenant = false := by
  have unstored := resolution.stored_eq_none unknown
  refine ⟨unstored, ?_⟩
  rw [resolution.estate_eq] at unstored ⊢
  cases whole with
  | registered stored _ _ => rw [stored] at unstored; cases unstored
  | absent _ idle _ => exact idle

theorem Registration.registers {entry : Entry}
    (registration : Registration tenant x (.ok entry) hs y) :
    y.estate.stored tenant = some entry ∧ y.estate.running tenant = true ∧
      posted hs = [] ∧ ⟨.reach tenant entry.address, .ok ()⟩ ∈ hs := by
  cases registration with
  | unstored _ _ _ undoing => cases undoing
  | unopened _ _ undoing => cases undoing
  | registered _ own =>
      subst own
      simp [posted, creation]

theorem Registration.eq_of_cached {entry cached : Entry}
    (registration : Registration tenant x (.ok entry) hs y)
    (found : y.cache.entries.find? tenant = some cached) : cached = entry := by
  cases registration with
  | unstored _ _ _ undoing => cases undoing
  | unopened _ _ undoing => cases undoing
  | registered _ own =>
      rw [Cache.find?_insert, if_pos own.symm] at found
      exact (Option.some.inj found).symm

inductive Setback (tenant : String) (hs : List Happening) : String → Prop where
  | put (entry : Entry) {e : DirectoryError} : ⟨.put entry, .error e⟩ ∈ hs →
      Setback tenant hs e.message
  | reach (address : String) {e : ProvisionError} : ⟨.reach tenant address, .error e⟩ ∈ hs →
      Setback tenant hs e.message

inductive Hitch (tenant : String) (hs : List Happening) : String → Prop where
  | destroy {e : ProvisionError} : ⟨.destroy tenant, .error e⟩ ∈ hs → Hitch tenant hs e.message
  | delete {e : DirectoryError} : ⟨.delete tenant, .error e⟩ ∈ hs → Hitch tenant hs e.message

theorem Setback.mono {more : List Happening} {text : String} (setback : Setback tenant hs text)
    (subset : hs ⊆ more) : Setback tenant more text := by
  cases setback with
  | put entry member => exact .put entry (subset member)
  | reach address member => exact .reach address (subset member)

theorem Hitch.mono {more : List Happening} {text : String} (hitch : Hitch tenant hs text)
    (subset : hs ⊆ more) : Hitch tenant more text := by
  cases hitch with
  | destroy member => exact .destroy (subset member)
  | delete member => exact .delete (subset member)

theorem Unregistration.hitch_of_error {e : DirectoryError} {entry : Entry}
    (stored : x.estate.stored tenant = some entry) (running : x.estate.running tenant = true)
    (unregistration : Unregistration tenant x (.error e) hs y) :
    Hitch tenant hs e.message ∧
      (y.estate.running tenant = true ∨ y.estate.stored tenant = some entry) := by
  cases unregistration with
  | standing _ => exact ⟨.destroy List.mem_cons_self, Or.inl running⟩
  | undeleted => exact ⟨.delete (by simp), Or.inr stored⟩

theorem Registration.undone_or_stuck {e : DirectoryError}
    (unstored : x.estate.stored tenant = none) (idle : x.estate.running tenant = false)
    (registration : Registration tenant x (.error e) hs y) :
    x.estate.Agree tenant y.estate ∨
      (∃ failure cause, e = .compensation tenant failure cause ∧ Setback tenant hs failure ∧
        Hitch tenant hs cause) ∧ ¬x.estate.Agree tenant y.estate := by
  cases registration with
  | refused => exact Or.inl ⟨rfl, rfl⟩
  | unstored entry _ _ undoing =>
      cases undoing with
      | undone =>
          left
          simp [Estate.Agree, idle]
      | stuck _ =>
          right
          refine ⟨⟨_, _, rfl, .put entry (List.mem_append_right _ ?_), .destroy (by simp)⟩, ?_⟩
          · exact List.mem_cons_self
          · simp [Estate.Agree, idle]
  | undeleted entry own =>
      right
      refine ⟨⟨_, _, rfl, .reach entry.address (List.mem_append_right _ ?_), .delete (by simp)⟩, ?_⟩
      · exact List.mem_cons_of_mem _ List.mem_cons_self
      · simp [Estate.Agree, idle]
  | unopened entry own undoing =>
      -- The entry is deleted by now, so only the instance can be left.
      cases undoing with
      | undone =>
          left
          simp [Estate.Agree, idle, unstored]
      | stuck _ =>
          right
          refine ⟨⟨_, _, rfl, .reach entry.address (List.mem_append_right _ ?_),
            .destroy (by simp)⟩, ?_⟩
          · exact List.mem_cons_of_mem _ List.mem_cons_self
          · simp [Estate.Agree, idle]

end Directory

namespace Multiplexer

open Site Directory

variable {tenant : Tenant} {message : Message} {x y : Scene} {hs : List Happening}
  {result : Except MultiplexError Response}

/-- The tenant has an instance, made reachable if it is a new one, and the instance was
told once, under the secret that is stored, and does not object. What is cached of the tenant
is what is stored. -/
structure Accepted (tenant : Tenant) (message : Message) (x : Scene)
    (result : Except MultiplexError Response) (hs : List Happening) (y : Scene) : Prop where
  reply : ∃ reply, outcomeOf result = .ok reply
  running : y.estate.running tenant.id = true
  told : ∃ entry sent, y.estate.stored tenant.id = some entry ∧
    ⟨.outbound tenant message, .ok sent⟩ ∈ hs ∧
    posted hs = [.of entry.address entry.secret sent] ∧
    (x.estate.stored tenant.id = none → ⟨.reach tenant.id entry.address, .ok ()⟩ ∈ hs)
  cached : ∀ entry, y.cache.entries.find? tenant.id = some entry →
    y.estate.stored tenant.id = some entry

/-- The subscription failed, and what there is of the tenant is what there was. -/
structure Undone (tenant : Tenant) (x : Scene) (result : Except MultiplexError Response)
    (y : Scene) : Prop where
  failure : ∃ error, outcomeOf result = .error error
  same : x.estate.Agree tenant.id y.estate

/-- Errors that tell of a cleanup that failed, what it was for and why it failed. -/
inductive Tells (tenant : Tenant) (message : Message) (hs : List Happening) :
    MultiplexError → Prop where
  | compensation {failure cause : String} : Setback tenant.id hs failure →
      Hitch tenant.id hs cause →
      Tells tenant message hs (.directory (.compensation tenant.id failure cause))
  | rollback {entry : Entry} {told : Except MultiplexError Response} {sent : List Happening}
      {failure cause : String} : Sending entry tenant message told sent → sent <:+: hs →
      objection told = some failure → Hitch tenant.id hs cause →
      Tells tenant message hs (.rollback failure cause)

/-- The subscription failed for good and left something behind. -/
structure Stuck (tenant : Tenant) (message : Message) (x : Scene)
    (result : Except MultiplexError Response) (hs : List Happening) (y : Scene) : Prop where
  failure : ∃ e, result = .error e ∧ e.isRetriable = false ∧ Tells tenant message hs e
  residue : ¬x.estate.Agree tenant.id y.estate

inductive Fate where
  | accepted
  | undone
  | stuck

def EndsAs (tenant : Tenant) (message : Message) (x : Scene)
    (result : Except MultiplexError Response) (hs : List Happening) (y : Scene) : Fate → Prop
  | .accepted => Accepted tenant message x result hs y
  | .undone => Undone tenant x result y
  | .stuck => Stuck tenant message x result hs y

theorem outcomeOf_of_objection :
    (objection result = none → ∃ reply, outcomeOf result = .ok reply) ∧
    ∀ failure, objection result = some failure → ∃ error, outcomeOf result = .error error := by
  cases result with
  | error e => simp [objection, outcomeOf]
  | ok r => cases isError : r.isError <;> simp [objection, outcomeOf, Outcome.ofResponse, isError]

theorem Sending.posted_of_ok {entry : Entry} {reply : Reply}
    (sending : Sending entry tenant message result hs) (fine : outcomeOf result = .ok reply) :
    ∃ sent, ⟨.outbound tenant message, .ok sent⟩ ∈ hs ∧
      posted hs = [.of entry.address entry.secret sent] := by
  cases sending with
  | held => cases fine
  | lost => cases fine
  | @answered sent _ _ _ _ => exact ⟨sent, List.mem_cons_self, rfl⟩

theorem ends_of_told {entry : Entry} {first rest : List Happening} (whole : x.Whole tenant.id)
    (resolution : Resolution tenant.id x (.ok entry) first y)
    (sending : Sending entry tenant message result rest) :
    ∃ fate, EndsAs tenant message x result (first ++ rest) y fate := by
  obtain ⟨stored, running⟩ := resolution.registered_of_whole whole
  have unchanged := resolution.estate_eq
  -- An old instance stays whatever it says.
  cases outcome : outcomeOf result with
  | error error =>
      refine ⟨.undone, ⟨error, outcome⟩, ?_⟩
      rw [unchanged]
      exact ⟨rfl, rfl⟩
  | ok reply =>
      obtain ⟨sent, looked, once⟩ := sending.posted_of_ok outcome
      refine ⟨.accepted, ⟨reply, outcome⟩, unchanged ▸ running, ⟨entry, sent, unchanged ▸ stored,
        List.mem_append_right _ looked, ?_, ?_⟩, ?_⟩
      · rw [posted_append, resolution.posted_eq_nil, once]
        rfl
      · intro unstored
        rw [stored] at unstored
        cases unstored
      · intro cached found
        rw [resolution.eq_of_cached found, unchanged]
        exact stored

theorem ends_of_unprovisioned {e : DirectoryError} {first made last : List Happening}
    {middle : Scene} (unchanged : middle.estate = x.estate)
    (unstored : middle.estate.stored tenant.id = none)
    (idle : middle.estate.running tenant.id = false)
    (registration : Registration tenant.id middle (.error e) made y) :
    ∃ fate, EndsAs tenant message x (.error (.directory e)) (first ++ (made ++ last)) y fate := by
  have within : made ⊆ first ++ (made ++ last) := by
    intro h member
    simp [member]
  have ended := registration.undone_or_stuck unstored idle
  rw [unchanged] at ended
  rcases ended with same | ⟨⟨failure, cause, rfl, setback, hitch⟩, differs⟩
  · exact ⟨.undone, ⟨_, rfl⟩, same⟩
  · exact ⟨.stuck, ⟨_, rfl, rfl, .compensation (setback.mono within) (hitch.mono within)⟩, differs⟩

theorem ends_of_provisioned {entry : Entry} {first made sent last : List Happening}
    {middle served : Scene} {measure : Measure} {told : Except MultiplexError Response}
    (unchanged : middle.estate = x.estate) (quiet : posted first = [])
    (unstored : middle.estate.stored tenant.id = none)
    (idle : middle.estate.running tenant.id = false)
    (registration : Registration tenant.id middle (.ok entry) made served)
    (sending : Sending entry tenant message told sent)
    (welcome : Welcome tenant.id served told result last y) :
    ∃ fate, EndsAs tenant message x result
      (first ++ (made ++ [⟨.count measure, ()⟩] ++ (sent ++ last))) y fate := by
  obtain ⟨stored, running, unposted, reached⟩ := registration.registers
  rw [unchanged] at unstored idle
  cases welcome with
  | accepted objected =>
      obtain ⟨reply, outcome⟩ := outcomeOf_of_objection.1 objected
      obtain ⟨parcel, looked, once⟩ := sending.posted_of_ok outcome
      refine ⟨.accepted, ⟨reply, outcome⟩, running, ⟨entry, parcel, stored, ?_, ?_, ?_⟩, ?_⟩
      · simp [looked]
      · simp only [posted_append, quiet, unposted, once]
        rfl
      · simp [reached]
      · intro cached found
        rw [registration.eq_of_cached found]
        exact stored
  | undone objected unregistration =>
      obtain ⟨unstored', _, idle'⟩ := unregistration.gone
      refine ⟨.undone, outcomeOf_of_objection.2 _ objected, ?_, ?_⟩
      · rw [unstored, unstored']
      · rw [idle, idle']
  | @stuck failure e measure' hs _ objected unregistration =>
      obtain ⟨hitch, left⟩ := unregistration.hitch_of_error stored running
      refine ⟨.stuck, ⟨_, rfl, rfl, .rollback sending ?_ objected (hitch.mono ?_)⟩, ?_⟩
      · exact ⟨first ++ (made ++ [⟨.count measure, ()⟩]), hs ++ [⟨.count measure', ()⟩], by simp⟩
      · intro h member
        simp [member]
      -- Before there was nothing, and now there is the instance or its entry.
      · rintro ⟨sameStored, sameRunning⟩
        rcases left with still | kept
        · rw [idle, still] at sameRunning
          cases sameRunning
        · rw [unstored, kept] at sameStored
          cases sameStored

theorem Subscribing.ends (whole : x.Whole tenant.id)
    (subscribing : Subscribing tenant message x result hs y) :
    ∃ fate, EndsAs tenant message x result hs y fate := by
  cases subscribing with
  | unresolved _ resolution =>
      refine ⟨.undone, ⟨_, rfl⟩, ?_⟩
      rw [resolution.estate_eq]
      exact ⟨rfl, rfl⟩
  | told resolution sending => exact ends_of_told whole resolution sending
  | unprovisioned unknown resolution registration =>
      obtain ⟨unstored, idle⟩ := resolution.absent_of_whole whole unknown
      exact ends_of_unprovisioned resolution.estate_eq unstored idle registration
  | provisioned unknown resolution registration sending welcome =>
      obtain ⟨unstored, idle⟩ := resolution.absent_of_whole whole unknown
      exact ends_of_provisioned resolution.estate_eq resolution.posted_eq_nil unstored idle
        registration sending welcome

theorem Accepted.not_undone (accepted : Accepted tenant message x result hs y) :
    ¬Undone tenant x result y := by
  rintro ⟨⟨error, failure⟩, _⟩
  obtain ⟨reply, fine⟩ := accepted.reply
  rw [failure] at fine
  cases fine

theorem Accepted.not_stuck (accepted : Accepted tenant message x result hs y) :
    ¬Stuck tenant message x result hs y := by
  rintro ⟨⟨e, rfl, _, _⟩, _⟩
  obtain ⟨reply, fine⟩ := accepted.reply
  cases fine

theorem EndsAs.unique {one other : Fate} (first : EndsAs tenant message x result hs y one)
    (second : EndsAs tenant message x result hs y other) : one = other := by
  cases one with
  | accepted =>
      cases other with
      | accepted => rfl
      | undone => exact absurd second (Accepted.not_undone first)
      | stuck => exact absurd second (Accepted.not_stuck first)
  | undone =>
      cases other with
      | accepted => exact absurd first (Accepted.not_undone second)
      | undone => rfl
      | stuck => exact absurd (Undone.same first) (Stuck.residue second)
  | stuck =>
      cases other with
      | accepted => exact absurd first (Accepted.not_stuck second)
      | undone => exact absurd (Undone.same second) (Stuck.residue first)
      | stuck => rfl

theorem EndsAs.agree_of_retriable {fate : Fate} {error : HandlerError}
    (ends : EndsAs tenant message x result hs y fate) (failure : outcomeOf result = .error error)
    (again : error.retriable = true) : x.estate.Agree tenant.id y.estate := by
  cases fate with
  | accepted =>
      obtain ⟨reply, fine⟩ := Accepted.reply ends
      rw [failure] at fine
      cases fine
  | undone => exact Undone.same ends
  | stuck =>
      obtain ⟨e, rfl, final, _⟩ := Stuck.failure ends
      have same : error = e.toHandlerError := (Except.error.inj failure).symm
      subst same
      rw [show e.toHandlerError.retriable = e.isRetriable from rfl, final] at again
      cases again

variable (m : Multiplexer) {σ : Type} {s : Surroundings σ} {view : σ → Estate}

theorem forwardEvent_subscribe {p : EventParams} (named : p.eventName = subscribeEvent) :
    m.forwardEvent p = m.subscribe p.client.access (eventMessage p) := by
  simp only [forwardEvent, named, ↓reduceIte]

/-- An event that starts a subscription ends in exactly one way for a tenant who has an
instance or nothing at all. If it may be tried again, or its call is answered with 503,
there is of the tenant what there was. -/
theorem subscribe_all_or_nothing (d : Dependable s view (·.isOfStore)) :
    (∀ (p : EventParams) (site : Site σ), p.eventName = subscribeEvent →
      (site.scene view).Whole p.client.access.id →
      let ended := run s (m.forwardEvent p) site
      let endsAs := EndsAs p.client.access (eventMessage p) (site.scene view) ended.1
        (calls s (m.forwardEvent p) site) (ended.2.scene view)
      (∃ fate, endsAs fate ∧ ∀ other, endsAs other → other = fate) ∧
      ∀ error, outcomeOf ended.1 = .error error → error.retriable = true →
        (view site.outside).Agree p.client.access.id (view ended.2.outside)) ∧
    ∀ (f : Dispatcher Program) (schema : Schema) (call : Http.Call) (message : Message) (e : Event)
      (site : Site σ), f.registry = m.registry schema → f.event? call = some (message, e) →
      e.name = subscribeEvent → (run s (f.handle call) site).1.answer.status = 503 →
      ∃ client, f.clients e.tenant = .ok client ∧ ((site.scene view).Whole client.access.id →
        (view site.outside).Agree client.access.id
          (view (run s (f.handle call) site).2.outside)) := by
  have relayed : ∀ (p : EventParams) (site : Site σ), p.eventName = subscribeEvent →
      (site.scene view).Whole p.client.access.id →
      ∃ fate, EndsAs p.client.access (eventMessage p) (site.scene view)
        (run s (m.forwardEvent p) site).1 (calls s (m.forwardEvent p) site)
        ((run s (m.forwardEvent p) site).2.scene view) fate := by
    intro p site named whole
    rw [m.forwardEvent_subscribe named]
    exact Subscribing.ends whole (m.subscribe_subscribes d p.client.access (eventMessage p) site)
  constructor
  · intro p site named whole ended endsAs
    obtain ⟨fate, ends⟩ := relayed p site named whole
    refine ⟨⟨fate, ends, ?_⟩, ?_⟩
    · intro other second
      exact second.unique ends
    · intro error failure again
      exact ends.agree_of_retriable failure again
  · intro f schema call message e site offered bears named unavailable
    have known : e.name ∈ events schema := named ▸ (lifecycle_events schema).1
    obtain ⟨client, made, unchanged, error, failure, again⟩ :=
      m.relayed_of_unavailable offered known bears unavailable
    refine ⟨client, made, ?_⟩
    intro whole
    obtain ⟨fate, ends⟩ :=
      relayed (Dispatcher.eventParams client message e) site named whole
    rw [unchanged]
    exact ends.agree_of_retriable failure again

def full : FairWorld :=
  .facing { put := .standing (some (.store "disk full")) }
    { get := by simp [Script.Holds]
      put := by simp [Script.Holds, DirectoryError.isOfStore]
      delete := by simp [Script.Holds]
      destroy := by simp [Script.Holds] }

/-- A subscription that cannot be stored is undone, and asked for again. -/
theorem subscribe_all_or_nothing_when_full :
    (run FairWorld.accepting (relay.handle (letter subscribeEvent))
      { outside := full }).1.answer.status = 503 ∧
    ∃ message e client, relay.event? (letter subscribeEvent) = some (message, e) ∧
      e.name = subscribeEvent ∧ relay.clients e.tenant = .ok client ∧
      (FairWorld.estate full).Agree client.access.id (FairWorld.estate
        (run FairWorld.accepting (relay.handle (letter subscribeEvent))
          { outside := full }).2.outside) ∧
      let p := Dispatcher.eventParams client message e
      let ended := run FairWorld.accepting (forwardEvent {} p) { outside := full }
      ∃ fate, EndsAs client.access (eventMessage p) { cache := {}, estate := FairWorld.estate full }
        ended.1 (calls FairWorld.accepting (forwardEvent {} p) { outside := full })
        (ended.2.scene FairWorld.estate) fate := by
  -- Both are evaluated at once: what the call says is then read only once.
  have answer : (relay.event? (letter subscribeEvent)).map (·.2.name) = some subscribeEvent ∧
      (run FairWorld.accepting (relay.handle (letter subscribeEvent))
        { outside := full }).1.answer.status = 503 := by
    decide +kernel
  obtain ⟨borne, unavailable⟩ := answer
  obtain ⟨⟨message, e⟩, bears, named⟩ := Option.map_eq_some_iff.mp borne
  obtain ⟨relayed, answered⟩ := subscribe_all_or_nothing {} FairWorld.accepting_dependable
  obtain ⟨client, made, same⟩ :=
    answered relay {} _ message e { outside := full } rfl bears named unavailable
  have whole : Scene.Whole client.access.id { cache := {}, estate := FairWorld.estate full } :=
    .absent rfl rfl rfl
  obtain ⟨⟨fate, ends, _⟩, _⟩ :=
    relayed (Dispatcher.eventParams client message e) { outside := full } named whole
  exact ⟨unavailable, message, e, client, bears, named, made, same whole, fate, ends⟩

end Multiplexer
end TenantRelay
