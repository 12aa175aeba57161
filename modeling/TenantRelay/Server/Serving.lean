import TenantRelay.Http.Health
import TenantRelay.Server.Start
import TenantRelay.Site

/-! A running server: the extension's endpoint next to the routes for its operator. -/

namespace TenantRelay

/-- The world of a running server. -/
structure Realm where
  holdings : Holdings := {}
  clock : Nat := 0
  today : Timestamp
  secrets : Nat → String
  issued : Nat := 0

namespace Realm

def keep {α : Type} (r : Realm) (result : α × Holdings) : α × Realm :=
  (result.1, { r with holdings := result.2 })

def secret (r : Realm) : String × Realm :=
  (r.secrets (r.issued + 1), { r with issued := r.issued + 1 })

end Realm

def Arrival.whole (arrival : Arrival) : Except TransportFailure Delivery :=
  arrival.body.map fun body => ⟨arrival.status, body⟩

def postOver (network : Network Id) (parcel : Parcel) : Except TransportFailure Delivery :=
  Except.bind (network parcel.outgoing) Arrival.whole

/-- A server that is not put together yet has no control plane to turn to. -/
def noControlPlane : ProvisionError := .config "base_url is required"

def Surroundings.serving (network : Network Id) (store : DirectoryStore)
    (plane : Option (ControlPlane × Definition)) : Surroundings Realm :=
  { clock := Realm.clock
    today := Realm.today
    secret := Realm.secret
    find := fun tenant r => (store.get tenant r.holdings, r)
    put := fun entry r => r.keep (store.put entry r.holdings)
    delete := fun tenant r => r.keep (store.delete tenant r.holdings)
    create := fun tenant secret r =>
      (match plane with
        | some (c, definition) => c.create network tenant definition secret
        | none => .error noControlPlane, r)
    reach := fun tenant _ r =>
      (match plane with
        | some (c, _) => c.reach network tenant
        | none => .error noControlPlane, r)
    destroy := fun tenant r =>
      (match plane with
        | some (c, _) => c.destroy network tenant
        | none => .error noControlPlane, r)
    post := fun parcel r => (postOver network parcel, r)
    outbound := fun _ message r => (.ok message, r)
    inbound := fun _ _ response r => (.ok response, r) }

namespace Server

abbrev Running := StateM (Site Realm)

def running {α : Type} (s : Surroundings Realm) (activity : Program α) : Running α :=
  fun site => site.run s activity

def endpoint (s : Surroundings Realm) (d : Dispatcher Program) : Http.Route Running :=
  let route := d.route Dispatcher.counting
  ⟨route.path, route.method, fun call => running s (route.handle call)⟩

def components (store : DirectoryStore) : Running (Option (List Component)) := do
  let site ← get
  return some [Health.component "directory" (store.ping site.outside.holdings).isOk]

def metrics : Running Metrics := do
  let site ← get
  return site.metrics.getD {}

def routes (s : Surroundings Realm) (store : DirectoryStore) (d : Dispatcher Program) :
    List (Http.Route Running) :=
  endpoint s d :: Health.routes (components store) metrics

def serve (s : Surroundings Realm) (store : DirectoryStore) (d : Dispatcher Program)
    (fresh : String) : Http.Call → Running Http.Answer :=
  Http.withRequestId fresh (Http.serve (routes s store d))

end Server
end TenantRelay
