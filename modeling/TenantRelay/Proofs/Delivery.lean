import TenantRelay.Multiplex.Multiplexer
import TenantRelay.Proofs.Registration

/-!
What sending, forwarding and subscribing come to. A message is posted once at most, to
the address and under the secret of the entry it is sent by, and neither sending nor
forwarding makes, changes or removes instances. Subscribing does where there is none.
-/

namespace TenantRelay

def posted (hs : List Happening) : List Parcel :=
  hs.filterMap fun h => match h.access with
    | .post parcel => some parcel
    | _ => none

theorem posted_append (first rest : List Happening) :
    posted (first ++ rest) = posted first ++ posted rest :=
  List.filterMap_append

namespace Multiplexer

open Site Program Directory

variable (x : Multiplexer)

/-- How sending a message ends. -/
inductive Sending (entry : Entry) (tenant : Tenant) (message : Message) :
    Except MultiplexError Response → List Happening → Prop where
  | held {e : MultiplexError} :
      Sending entry tenant message (.error e) [⟨.outbound tenant message, .error e⟩]
  | lost {sent : Message} {answer : Except TransportFailure Delivery} {measure : Measure}
      {e : ForwardError} :
      Sending entry tenant message (.error (.forward e))
        [⟨.outbound tenant message, .ok sent⟩,
          ⟨.post (.of entry.address entry.secret sent), answer⟩, ⟨.count measure, ()⟩]
  | answered {sent : Message} {answer : Except TransportFailure Delivery} {measure : Measure}
      {response : Response} {result : Except MultiplexError Response} :
      Sending entry tenant message result
        [⟨.outbound tenant message, .ok sent⟩,
          ⟨.post (.of entry.address entry.secret sent), answer⟩, ⟨.count measure, ()⟩,
          ⟨.inbound tenant sent response, result⟩]

inductive Forwarding (tenant : Tenant) (message : Message) (y : Scene) :
    Except MultiplexError Response → List Happening → Scene → Prop where
  | unresolved {e : DirectoryError} {hs : List Happening} {after : Scene} :
      Resolution tenant.id y (.error e) hs after →
      Forwarding tenant message y (.error (.directory e)) hs after
  | sent {entry : Entry} {first rest : List Happening} {after : Scene}
      {result : Except MultiplexError Response} :
      Resolution tenant.id y (.ok entry) first after →
      Sending entry tenant message result rest →
      Forwarding tenant message y result (first ++ rest) after

/-- How a subscription ends whose tenant was given an instance: it is accepted, or
taken down again. -/
inductive Welcome (tenant : String) (y : Scene) (told : Except MultiplexError Response) :
    Except MultiplexError Response → List Happening → Scene → Prop where
  | accepted : objection told = none → Welcome tenant y told told [] y
  | undone {failure : String} {measure : Measure} {hs : List Happening} {after : Scene} :
      objection told = some failure → Unregistration tenant y (.ok ()) hs after →
      Welcome tenant y told told (hs ++ [⟨.count measure, ()⟩]) after
  | stuck {failure : String} {e : DirectoryError} {measure : Measure} {hs : List Happening}
      {after : Scene} :
      objection told = some failure → Unregistration tenant y (.error e) hs after →
      Welcome tenant y told (.error (.rollback failure e.message))
        (hs ++ [⟨.count measure, ()⟩]) after

inductive Subscribing (tenant : Tenant) (message : Message) (y : Scene) :
    Except MultiplexError Response → List Happening → Scene → Prop where
  | unresolved {e : DirectoryError} {hs : List Happening} {after : Scene} :
      e.isNotFound = false → Resolution tenant.id y (.error e) hs after →
      Subscribing tenant message y (.error (.directory e)) hs after
  | told {entry : Entry} {first rest : List Happening} {after : Scene}
      {result : Except MultiplexError Response} :
      Resolution tenant.id y (.ok entry) first after →
      Sending entry tenant message result rest →
      Subscribing tenant message y result (first ++ rest) after
  -- A provision that failed has cleaned up, or its error says that it could not.
  | unprovisioned {missing e : DirectoryError} {measure : Measure}
      {first made : List Happening} {middle after : Scene} :
      missing.isNotFound = true → Resolution tenant.id y (.error missing) first middle →
      Registration tenant.id middle (.error e) made after →
      Subscribing tenant message y (.error (.directory e))
        (first ++ (made ++ [⟨.count measure, ()⟩])) after
  | provisioned {missing : DirectoryError} {entry : Entry} {measure : Measure}
      {first made sent last : List Happening} {middle served after : Scene}
      {told result : Except MultiplexError Response} :
      missing.isNotFound = true → Resolution tenant.id y (.error missing) first middle →
      Registration tenant.id middle (.ok entry) made served →
      Sending entry tenant message told sent →
      Welcome tenant.id served told result last after →
      Subscribing tenant message y result
        (first ++ (made ++ [⟨.count measure, ()⟩] ++ (sent ++ last))) after

section
variable {σ : Type} {s : Surroundings σ} {view : σ → Estate} (d : Dependable s view (·.isOfStore))
  (tenant : Tenant) (message : Message) (target : String) (site : Site σ)

include d

omit x in
theorem send_posts (f : Forwarder) (address secret : String) :
    Ensures s (f.send address secret message target) site fun result hs after =>
      ∃ answer, result = f.read answer ∧
        hs = [⟨.post (.of address secret message), answer⟩,
          ⟨.count (.forward target (Forwarder.outcomeOf result)), ()⟩] ∧
        after.scene view = site.scene view := by
  unfold Forwarder.send
  apply d.ensures_post
  intro answer postedSite same
  apply ensures_count view
  intro last counted
  exact ensures_pure ⟨answer, rfl, rfl, counted.trans same⟩

theorem sendTo_sends (entry : Entry) :
    Ensures s (x.sendTo entry tenant message target) site fun result hs after =>
      Sending entry tenant message result hs ∧ after.scene view = site.scene view := by
  unfold sendTo
  apply d.ensures_outbound
  intro looked lookedSite unchanged
  cases looked with
  | error e => exact ensures_pure ⟨.held, unchanged⟩
  | ok sent =>
      apply ensures_bind
      refine (send_posts d sent target lookedSite x.forwarder entry.address entry.secret).mono ?_
      rintro read hs sentSite ⟨answer, _, rfl, same⟩
      cases read with
      | error e => exact ensures_pure ⟨.lost, same.trans unchanged⟩
      | ok response =>
          refine ensures_last (d.ensures_inbound ?_)
          intro result last looked
          exact ensures_pure ⟨.answered, looked.trans (same.trans unchanged)⟩

theorem forward_forwards :
    Ensures s (x.forward tenant message target) site fun result hs after =>
      Forwarding tenant message (site.scene view) result hs (after.scene view) := by
  unfold forward
  apply ensures_bind
  refine (resolve_resolves d tenant.id site).mono ?_
  intro resolved first middle resolution
  cases resolved with
  | error e =>
      apply ensures_pure
      show Forwarding tenant message _ _ (first ++ []) _
      rw [List.append_nil]
      exact .unresolved resolution
  | ok entry =>
      refine (x.sendTo_sends d tenant message target middle entry).mono ?_
      rintro result rest last ⟨sending, same⟩
      rw [same]
      exact .sent resolution sending

theorem welcome_welcomes (told : Except MultiplexError Response) :
    Ensures s
      (match objection told with
        | none => return told
        | some failure => undoSubscribe tenant.id failure told) site fun result hs after =>
      Welcome tenant.id (site.scene view) told result hs (after.scene view) := by
  cases objected : objection told with
  | none => exact ensures_pure (.accepted objected)
  | some failure =>
      unfold undoSubscribe
      apply ensures_bind
      refine (deprovision_unregisters d tenant.id site).mono ?_
      rintro down hs last ⟨done, rfl, unregistration⟩
      cases down with
      | error e =>
          apply ensures_pure
          rw [List.append_nil]
          exact .stuck objected unregistration
      | ok _ =>
          apply ensures_pure
          rw [List.append_nil]
          exact .undone objected unregistration

theorem subscribe_subscribes :
    Ensures s (x.subscribe tenant message) site fun result hs after =>
      Subscribing tenant message (site.scene view) result hs (after.scene view) := by
  unfold subscribe
  apply ensures_bind
  refine (resolve_resolves d tenant.id site).mono ?_
  intro resolved first middle resolution
  cases resolved with
  | ok entry =>
      refine (x.sendTo_sends d tenant message subscribeEvent middle entry).mono ?_
      rintro result rest last ⟨sending, same⟩
      rw [same]
      exact .told resolution sending
  | error missing =>
      cases absent : missing.isNotFound with
      | false =>
          simp only [absent, Bool.false_eq_true, ↓reduceIte]
          apply ensures_pure
          rw [List.append_nil]
          exact .unresolved absent resolution
      | true =>
          simp only [absent, ↓reduceIte]
          unfold subscribeNew
          apply ensures_bind
          refine (provision_registers d tenant.id middle).mono ?_
          rintro provisioned hs served ⟨made, rfl, registration⟩
          cases provisioned with
          | error e =>
              -- Nothing is sent where nobody is.
              apply ensures_pure
              rw [List.append_nil]
              exact .unprovisioned absent resolution registration
          | ok entry =>
              apply ensures_bind
              refine (x.sendTo_sends d tenant message subscribeEvent served entry).mono ?_
              rintro told sent toldSite ⟨sending, same⟩
              refine (welcome_welcomes d tenant toldSite told).mono ?_
              intro result last after welcome
              rw [same] at welcome
              exact .provisioned absent resolution registration sending welcome

end

end Multiplexer
end TenantRelay
