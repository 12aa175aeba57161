import TenantRelay.Proofs.Passage
import TenantRelay.Proofs.StatusRelay
import TenantRelay.Proofs.Subscription
import TenantRelay.Proofs.Transparency
import TenantRelay.Proofs.Unsubscription

/-!
What the relay posts when it relays a message, and when. Of whatever an activity does, at most
one access is a post, and the entry that a message is sent by is the one that is stored for its
tenant just then: what is cached is what is stored, and what was just made is stored by now.
-/

namespace TenantRelay

theorem Parcel.of_spec (address secret : String) (message : Message) :
    let parcel := Parcel.of address secret message
    parcel.address = address ∧
      Signature.verify parcel.body parcel.signature (Text.Utf8.encode secret) = true ∧
      parcel.body = message.encode := by
  have verified := Signature.verify_sign (Text.Utf8.encode secret) message.encode
  unfold Parcel.of
  generalize message.encode = body at verified ⊢
  exact ⟨rfl, verified, rfl⟩

def Access.alters : Access → Bool
  | .put _ => true
  | .delete _ => true
  | .create _ _ => true
  | .reach _ _ => true
  | .destroy _ => true
  | _ => false

open Site Program

section
variable {σ α β : Type} (s : Surroundings σ) (view : σ → Estate) (tenant : String)
  (sent : Message)

/-- What an activity posts on its way: one parcel at most, which is the message as it is sent
by the entry that is stored for the tenant at that moment. -/
structure Delivers (p : Program α) (site : Site σ) : Prop where
  once : (posted (calls s p site)).length ≤ 1
  each : ∀ m ∈ trace s p site, ∀ parcel, m.happening.access = .post parcel →
    ∃ entry, (view m.after.outside).stored tenant = some entry ∧
      parcel = .of entry.address entry.secret sent

variable {s view tenant sent} {p : Program α} {f : α → Program β} {site : Site σ}

theorem not_post_of_silent (silent : posted (calls s p site) = []) :
    ∀ m ∈ trace s p site, ∀ parcel, m.happening.access ≠ .post parcel := by
  intro m member parcel same
  have none := List.filterMap_eq_nil_iff.mp silent m.happening (List.mem_map_of_mem member)
  rw [same] at none
  cases none

theorem exists_moment {parcel : Parcel} (member : parcel ∈ posted (calls s p site)) :
    ∃ m ∈ trace s p site, m.happening.access = .post parcel := by
  obtain ⟨h, happened, same⟩ := List.mem_filterMap.mp member
  obtain ⟨m, moment, rfl⟩ := List.mem_map.mp happened
  refine ⟨m, moment, ?_⟩
  split at same
  case h_1 other access => rw [access, Option.some.inj same]
  case h_2 => cases same

namespace Delivers

theorem of_silent (silent : posted (calls s p site) = []) : Delivers s view tenant sent p site where
  once := by
    rw [silent]
    exact Nat.zero_le 1
  each m member parcel same := absurd same (not_post_of_silent silent m member parcel)

theorem before (silent : posted (calls s p site) = [])
    (rest : Delivers s view tenant sent (f (run s p site).1) (run s p site).2) :
    Delivers s view tenant sent (p >>= f) site where
  once := by
    rw [calls_bind, posted_append, silent]
    exact rest.once
  each m member parcel same := by
    rw [trace_bind] at member
    rcases List.mem_append.mp member with earlier | later
    · exact absurd same (not_post_of_silent silent m earlier parcel)
    · exact rest.each m later parcel same

theorem after (first : Delivers s view tenant sent p site)
    (silent : posted (calls s (f (run s p site).1) (run s p site).2) = []) :
    Delivers s view tenant sent (p >>= f) site where
  once := by
    rw [calls_bind, posted_append, silent, List.append_nil]
    exact first.once
  each m member parcel same := by
    rw [trace_bind] at member
    rcases List.mem_append.mp member with earlier | later
    · exact first.each m earlier parcel same
    · exact absurd same (not_post_of_silent silent m later parcel)

end Delivers
end

namespace Directory

variable {tenant : String} {x y : Scene} {hs : List Happening}

theorem Registration.posted_eq_nil {result : Except DirectoryError Entry}
    (registration : Registration tenant x result hs y) : posted hs = [] := by
  cases registration with
  | refused => rfl
  | unstored entry _ _ undoing => cases undoing <;> rfl
  | undeleted entry own => rfl
  | unopened entry own undoing => cases undoing <;> rfl
  | registered entry own => rfl

theorem Unregistration.posted_eq_nil {result : Except DirectoryError Unit}
    (unregistration : Unregistration tenant x result hs y) : posted hs = [] := by
  cases unregistration <;> rfl

theorem Resolution.alters_nothing {result : Except DirectoryError Entry}
    (resolution : Resolution tenant x result hs y) : ∀ h ∈ hs, h.access.alters = false := by
  cases resolution with
  | hit _ => simp [Access.alters]
  | read missed _ => cases missed <;> simp [Access.alters]
  | absent missed _ => cases missed <;> simp [Access.alters]
  | failed missed _ => cases missed <;> simp [Access.alters]

section
variable {σ : Type} {s : Surroundings σ} {view : σ → Estate} (d : Dependable s view (·.isOfStore))
  (tenant : String) (site : Site σ)

include d

theorem resolve_silent : posted (calls s (resolve tenant) site) = [] :=
  (resolve_resolves d tenant site).posted_eq_nil

theorem provision_silent : posted (calls s (provision tenant) site) = [] := by
  obtain ⟨done, happened, registration⟩ := provision_registers d tenant site
  rw [happened, posted_append, registration.posted_eq_nil]
  rfl

theorem deprovision_silent : posted (calls s (deprovision tenant) site) = [] := by
  obtain ⟨done, happened, unregistration⟩ := deprovision_unregisters d tenant site
  rw [happened, posted_append, unregistration.posted_eq_nil]
  rfl

theorem stored_of_resolve {tenant : String} {site : Site σ} {entry : Entry}
    (transparent : (site.scene view).Transparent)
    (found : (run s (resolve tenant) site).1 = .ok entry) :
    (view (run s (resolve tenant) site).2.outside).stored tenant = some entry := by
  have resolution := resolve_resolves d tenant site
  have same : view (run s (resolve tenant) site).2.outside = view site.outside :=
    resolution.estate_eq
  rw [same]
  rcases resolution.answers transparent with ⟨e, _, _, failed⟩ | told
  · rw [found] at failed
    cases failed
  · rw [found] at told
    show (site.scene view).estate.stored tenant = some entry
    cases held : (site.scene view).estate.stored tenant with
    | none =>
        rw [held] at told
        cases told
    | some other =>
        rw [held] at told
        cases told
        rfl

theorem stored_of_provision {tenant : String} {site : Site σ} {entry : Entry}
    (made : (run s (provision tenant) site).1 = .ok entry) :
    (view (run s (provision tenant) site).2.outside).stored tenant = some entry := by
  obtain ⟨done, _, registration⟩ := provision_registers d tenant site
  rw [made] at registration
  exact registration.registers.1

end
end Directory
namespace Multiplexer

open Directory

section
variable {σ : Type} {s : Surroundings σ} {view : σ → Estate} (d : Dependable s view (·.isOfStore))
  (passing : s.PassesThrough) (x : Multiplexer) (tenant : Tenant) (message : Message)
  (target : String) (site : Site σ)

include d

theorem post_delivers {entry : Entry} {key : String}
    (stored : (view site.outside).stored key = some entry) :
    Delivers s view key message
      (call (.post (.of entry.address entry.secret message))) site where
  once := Nat.le_refl 1
  each m member parcel same := by
    cases List.mem_singleton.mp member
    cases same
    have unchanged := d.post (.of entry.address entry.secret message) site.outside
    exact ⟨entry, unchanged ▸ stored, rfl⟩

include passing

theorem sendTo_delivers {entry : Entry}
    (stored : (view site.outside).stored tenant.id = some entry) :
    Delivers s view tenant.id message (x.sendTo entry tenant message target) site := by
  unfold sendTo
  apply Delivers.before rfl
  rw [run_outbound passing]
  apply Delivers.after
  · unfold Forwarder.send
    exact (post_delivers d message site stored).after rfl
  · generalize run s (x.forwarder.send entry.address entry.secret message target) site = told
    obtain ⟨result, after⟩ := told
    cases result <;> rfl

theorem forward_delivers (transparent : (site.scene view).Transparent) :
    Delivers s view tenant.id message (x.forward tenant message target) site := by
  unfold forward
  apply Delivers.before (resolve_silent d tenant.id site)
  cases found : (run s (resolve tenant.id) site).1 with
  | error e => exact .of_silent rfl
  | ok entry =>
      have stored := stored_of_resolve d transparent found
      exact sendTo_delivers d passing x tenant message target _ stored

theorem subscribeNew_delivers :
    Delivers s view tenant.id message (x.subscribeNew tenant message) site := by
  unfold subscribeNew
  apply Delivers.before (provision_silent d tenant.id site)
  cases made : (run s (provision tenant.id) site).1 with
  | error e => exact .of_silent rfl
  | ok entry =>
      apply Delivers.after
      · have stored := stored_of_provision d made
        exact sendTo_delivers d passing x tenant message subscribeEvent _ stored
      · split
        case h_1 => rfl
        case h_2 =>
          unfold undoSubscribe
          rw [calls_bind, posted_append, deprovision_silent d]
          split <;> rfl

theorem subscribe_delivers (transparent : (site.scene view).Transparent) :
    Delivers s view tenant.id message (x.subscribe tenant message) site := by
  unfold subscribe
  apply Delivers.before (resolve_silent d tenant.id site)
  cases found : (run s (resolve tenant.id) site).1 with
  | ok entry =>
      have stored := stored_of_resolve d transparent found
      exact sendTo_delivers d passing x tenant message subscribeEvent _ stored
  | error e =>
      cases unknown : e.isNotFound with
      | true =>
          simp only [unknown, ↓reduceIte]
          exact subscribeNew_delivers d passing x tenant message _
      | false =>
          simp only [unknown, Bool.false_eq_true, ↓reduceIte]
          exact .of_silent rfl

theorem unsubscribe_delivers (transparent : (site.scene view).Transparent) :
    Delivers s view tenant.id message (x.unsubscribe tenant message) site := by
  unfold unsubscribe
  apply Delivers.after
  · exact forward_delivers d passing x tenant message unsubscribeEvent site transparent
  · rw [calls_bind, posted_append, deprovision_silent d]
    split <;> rfl

end

theorem posted_of_passes {σ : Type} {s : Surroundings σ} {x : Multiplexer} {schema : Schema}
    {f : Dispatcher Program} {call : Http.Call} {message sent : Message} {tenant : Tenant}
    {target : String} {site : Site σ} {entry : Entry} (passing : s.PassesThrough)
    (fronts : x.Fronts schema f) (bears : f.message? call = some message)
    (passes : Passes schema message tenant sent target) (valid : tenant.validate = .ok ())
    (registered : (run s (resolve tenant.id) site).1 = .ok entry) :
    .of entry.address entry.secret sent ∈ posted (calls s (f.handle call) site) := by
  obtain ⟨kind, handling⟩ := handle_of_relays fronts valid bears (.passed passes)
  rw [handling, calls_bind, posted_append]
  apply List.mem_append_left
  unfold forward
  rw [calls_bind, registered, posted_append]
  apply List.mem_append_right
  generalize (run s (resolve tenant.id) site).2 = found
  unfold sendTo
  rw [calls_bind, run_outbound passing, posted_append]
  apply List.mem_append_right
  unfold Forwarder.send
  rw [calls_bind, posted_append]
  apply List.mem_append_left
  rw [calls_bind, posted_append]
  exact List.mem_append_left _ List.mem_cons_self

/-! What is cached stays what is stored, and what is only passed on alters nothing. -/

section
variable {tenant : Tenant} {message : Message} {y after : Scene} {hs : List Happening}
  {result : Except MultiplexError Response}

theorem Forwarding.transparent (forwarding : Forwarding tenant message y result hs after)
    (transparent : y.Transparent) : after.Transparent := by
  cases forwarding with
  | unresolved resolution => exact transparent.of_resolution resolution
  | sent resolution _ => exact transparent.of_resolution resolution

theorem Subscribing.transparent (subscribing : Subscribing tenant message y result hs after)
    (transparent : y.Transparent) : after.Transparent := by
  cases subscribing with
  | unresolved _ resolution => exact transparent.of_resolution resolution
  | told resolution _ => exact transparent.of_resolution resolution
  | unprovisioned unknown resolution registration =>
      have sought := transparent.of_resolution resolution
      exact sought.of_registration (resolution.stored_eq_none unknown) registration
  | provisioned unknown resolution registration _ welcome =>
      have sought := transparent.of_resolution resolution
      have made := sought.of_registration (resolution.stored_eq_none unknown) registration
      cases welcome with
      | accepted _ => exact made
      | undone _ unregistration => exact made.of_unregistration unregistration
      | stuck _ unregistration => exact made.of_unregistration unregistration

theorem Sending.alters_nothing {entry : Entry} (sending : Sending entry tenant message result hs) :
    ∀ h ∈ hs, h.access.alters = false := by
  cases sending <;> simp [Access.alters]

theorem Forwarding.alters_nothing (forwarding : Forwarding tenant message y result hs after) :
    ∀ h ∈ hs, h.access.alters = false := by
  cases forwarding with
  | unresolved resolution => exact resolution.alters_nothing
  | sent resolution sending =>
      intro h member
      rcases List.mem_append.mp member with sought | told
      · exact resolution.alters_nothing h sought
      · exact sending.alters_nothing h told

end
end Multiplexer
end TenantRelay
