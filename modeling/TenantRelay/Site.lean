import TenantRelay.Program

/-! Running activities: what the relay itself holds, and what answers for the world
around it. -/

namespace TenantRelay

/-- How the world in a state of type `σ` answers the accesses that leave the relay. -/
structure Surroundings (σ : Type) where
  clock : σ → Nat
  today : σ → Timestamp
  secret : σ → String × σ
  find : String → σ → Except DirectoryError (Option Entry) × σ
  put : Entry → σ → Except DirectoryError Unit × σ
  delete : String → σ → Except DirectoryError Bool × σ
  create : String → String → σ → Except ProvisionError String × σ
  reach : String → String → σ → Except ProvisionError Unit × σ
  destroy : String → σ → Except ProvisionError Unit × σ
  post : Parcel → σ → Except TransportFailure Delivery × σ
  outbound : Tenant → Message → σ → Except MultiplexError Message × σ
  inbound : Tenant → Message → Response → σ → Except MultiplexError Response × σ

/-- What the relay holds, and the state of the world around it. -/
structure Site (σ : Type) where
  cache : Cache := {}
  metrics : Option Metrics := none
  outside : σ

namespace Site

variable {σ α : Type}

def withOutside {β : Type} (site : Site σ) (result : β × σ) : β × Site σ :=
  (result.1, { site with outside := result.2 })

def answer (s : Surroundings σ) (access : Access) (site : Site σ) : access.Answer × Site σ :=
  match access with
  | .lookup tenant =>
    let (found, cache) := site.cache.lookup (s.clock site.outside) tenant
    (found, { site with cache })
  | .generation => (site.cache.generation, site)
  | .fill entry generation =>
    let (kept, cache) := site.cache.fill (s.clock site.outside) entry generation
    (kept, { site with cache })
  | .keep entry =>
    ((), { site with cache := site.cache.insert (s.clock site.outside) entry })
  | .forget tenant =>
    let (had, cache) := site.cache.remove tenant
    (had, { site with cache })
  | .cachedCount => (site.cache.size, site)
  | .find tenant => site.withOutside (s.find tenant site.outside)
  | .put entry => site.withOutside (s.put entry site.outside)
  | .delete tenant => site.withOutside (s.delete tenant site.outside)
  | .secret => site.withOutside (s.secret site.outside)
  | .now => (s.today site.outside, site)
  | .create tenant secret => site.withOutside (s.create tenant secret site.outside)
  | .reach tenant address => site.withOutside (s.reach tenant address site.outside)
  | .destroy tenant => site.withOutside (s.destroy tenant site.outside)
  | .post parcel => site.withOutside (s.post parcel site.outside)
  | .outbound tenant message => site.withOutside (s.outbound tenant message site.outside)
  | .inbound tenant message response =>
    site.withOutside (s.inbound tenant message response site.outside)
  | .count measure => ((), { site with metrics := site.metrics.map measure.apply })

def run (s : Surroundings σ) : Program α → Site σ → α × Site σ
  | .done a, site => (a, site)
  | .step access next, site =>
    let (answer, site) := site.answer s access
    run s (next answer) site

/-- Runs an activity up to and including the first access of a kind, and gives what is
left of it. -/
def runPast (s : Surroundings σ) (stop : (access : Access) → access.Answer → Bool) :
    Program α → Site σ → Program α × Site σ
  | .done a, site => (.done a, site)
  | .step access next, site =>
    let (answer, site) := site.answer s access
    if stop access answer then (next answer, site) else runPast s stop (next answer) site

end Site
end TenantRelay
