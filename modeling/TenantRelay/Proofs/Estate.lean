import TenantRelay.Proofs.Trace

/-!
What there is of tenants outside the relay: the entries that are stored and the
instances that run. A store and a control plane are dependable if a call that fails
changes nothing and one that succeeds does what it is for. When and how often calls
fail is left open, and so is the clock.
-/

namespace TenantRelay

structure Estate where
  stored : String → Option Entry
  running : String → Bool

namespace Estate

variable (x : Estate) (tenant : String) (entry : Entry)

def empty : Estate := ⟨fun _ => none, fun _ => false⟩

def put : Estate :=
  { x with stored := fun t => if t = entry.tenant then some entry else x.stored t }

def delete : Estate := { x with stored := fun t => if t = tenant then none else x.stored t }

def start : Estate := { x with running := fun t => if t = tenant then true else x.running t }

def stop : Estate := { x with running := fun t => if t = tenant then false else x.running t }

@[simp] theorem stored_put (t : String) :
    (x.put entry).stored t = if t = entry.tenant then some entry else x.stored t := rfl

@[simp] theorem running_put : (x.put entry).running = x.running := rfl

@[simp] theorem stored_delete (t : String) :
    (x.delete tenant).stored t = if t = tenant then none else x.stored t := rfl

@[simp] theorem running_delete : (x.delete tenant).running = x.running := rfl

@[simp] theorem stored_start : (x.start tenant).stored = x.stored := rfl

@[simp] theorem running_start (t : String) :
    (x.start tenant).running t = if t = tenant then true else x.running t := rfl

@[simp] theorem stored_stop : (x.stop tenant).stored = x.stored := rfl

@[simp] theorem running_stop (t : String) :
    (x.stop tenant).running t = if t = tenant then false else x.running t := rfl

theorem stop_of_not_running {x : Estate} {tenant : String} (idle : x.running tenant = false) :
    x.stop tenant = x := by
  cases x with
  | mk stored running =>
      simp only [stop, mk.injEq, true_and]
      funext t
      by_cases same : t = tenant
      · simpa [same] using idle
      · simp [same]

def Agree (tenant : String) (x y : Estate) : Prop :=
  y.stored tenant = x.stored tenant ∧ y.running tenant = x.running tenant

theorem Agree.refl (tenant : String) (x : Estate) : x.Agree tenant x := ⟨rfl, rfl⟩

theorem Agree.trans {tenant : String} {x y z : Estate} (first : x.Agree tenant y)
    (second : y.Agree tenant z) : x.Agree tenant z :=
  ⟨second.1.trans first.1, second.2.trans first.2⟩

/-- What bears the name of the tenant is stored under it. -/
def Files (tenant : String) (x : Estate) : Prop :=
  ∀ key entry, x.stored key = some entry → entry.tenant = tenant → key = tenant

end Estate

/-- The errors by which a store says that it could not be used. -/
def DirectoryError.isOfStore : DirectoryError → Bool
  | store _ => true
  | io _ => true
  | _ => false

theorem DirectoryError.isNotFound_of_isOfStore {e : DirectoryError} (storage : e.isOfStore = true) :
    e.isNotFound = false := by
  cases e <;> simp_all [isOfStore, isNotFound]

/-- What a call comes to: it is done, or it fails and nothing is changed. -/
def Settles {σ α ε : Type} (view : σ → Estate) (w : σ) (done : α → Estate → Prop)
    (failing : ε → Prop) : Except ε α × σ → Prop
  | (.ok a, w') => done a (view w')
  | (.error e, w') => failing e ∧ view w' = view w

theorem Settles.elim {σ α ε : Type} {view : σ → Estate} {w : σ} {done : α → Estate → Prop}
    {failing : ε → Prop} {result : Except ε α × σ} {motive : Except ε α → σ → Prop}
    (settles : Settles view w done failing result)
    (failed : ∀ e w', failing e → view w' = view w → motive (.error e) w')
    (succeeded : ∀ a w', done a (view w') → motive (.ok a) w') : motive result.1 result.2 := by
  rcases result with ⟨e | a, w'⟩
  · exact failed e w' settles.1 settles.2
  · exact succeeded a w' settles

/-- Only the store's and the control plane's own calls change what is stored and what
runs. Any of them may fail at any time, the store by errors of one kind. -/
structure Dependable {σ : Type} (s : Surroundings σ) (view : σ → Estate)
    (failing : DirectoryError → Prop) : Prop where
  find : ∀ tenant w, Settles view w
    (fun found after => found = (view w).stored tenant ∧ after = view w) failing (s.find tenant w)
  put : ∀ entry w, Settles view w (fun _ after => after = (view w).put entry) failing
    (s.put entry w)
  delete : ∀ tenant w, Settles view w (fun _ after => after = (view w).delete tenant) failing
    (s.delete tenant w)
  create : ∀ tenant secret w, Settles view w (fun _ after => after = (view w).start tenant)
    (fun _ => True) (s.create tenant secret w)
  reach : ∀ tenant address w, Settles view w (fun _ after => after = view w)
    (fun _ => True) (s.reach tenant address w)
  /-- An instance is not found only if there is none. -/
  destroy : ∀ tenant w, Settles view w (fun _ after => after = (view w).stop tenant)
    (fun e => e.isNotFound = true → (view w).running tenant = false) (s.destroy tenant w)
  secret : ∀ w, view (s.secret w).2 = view w
  post : ∀ parcel w, view (s.post parcel w).2 = view w
  outbound : ∀ tenant message w, view (s.outbound tenant message w).2 = view w
  inbound : ∀ tenant message response w, view (s.inbound tenant message response w).2 = view w

structure Scene where
  cache : Cache
  estate : Estate

def Site.scene {σ : Type} (view : σ → Estate) (site : Site σ) : Scene :=
  ⟨site.cache, view site.outside⟩

namespace Dependable

open Site

variable {σ α : Type} {s : Surroundings σ} {view : σ → Estate} {failing : DirectoryError → Prop}
  (d : Dependable s view failing) {site : Site σ} {tenant : String}
  {post : α → List Happening → Site σ → Prop}

include d

/-! One rule for each call. Its premises are named for what the call comes to. -/

theorem ensures_find {f : Except DirectoryError (Option Entry) → Program α}
    (failed : ∀ e after, failing e → after.scene view = site.scene view →
      Ensures s (f (.error e)) after (past ⟨.find tenant, .error e⟩ post))
    (read : ∀ found after, found = (site.scene view).estate.stored tenant →
      after.scene view = site.scene view →
      Ensures s (f (.ok found)) after (past ⟨.find tenant, .ok found⟩ post)) :
    Ensures s (Program.call (.find tenant) >>= f) site post := by
  apply ensures_call
  refine (d.find tenant site.outside).elim (motive := fun answer w =>
    Ensures s (f answer) { site with outside := w } (past ⟨.find tenant, answer⟩ post)) ?_ ?_
  · intro e w kind same
    exact failed e _ kind (congrArg (Scene.mk site.cache) same)
  · rintro found w ⟨held, same⟩
    exact read found _ held (congrArg (Scene.mk site.cache) same)

theorem ensures_put {entry : Entry} {f : Except DirectoryError Unit → Program α}
    (failed : ∀ e after, failing e → after.scene view = site.scene view →
      Ensures s (f (.error e)) after (past ⟨.put entry, .error e⟩ post))
    (stored : ∀ after, after.scene view =
        { site.scene view with estate := (site.scene view).estate.put entry } →
      Ensures s (f (.ok ())) after (past ⟨.put entry, .ok ()⟩ post)) :
    Ensures s (Program.call (.put entry) >>= f) site post := by
  apply ensures_call
  refine (d.put entry site.outside).elim (motive := fun answer w =>
    Ensures s (f answer) { site with outside := w } (past ⟨.put entry, answer⟩ post)) ?_ ?_
  · intro e w kind same
    exact failed e _ kind (congrArg (Scene.mk site.cache) same)
  · intro _ w changed
    exact stored _ (congrArg (Scene.mk site.cache) changed)

theorem ensures_delete {f : Except DirectoryError Bool → Program α}
    (failed : ∀ e after, failing e → after.scene view = site.scene view →
      Ensures s (f (.error e)) after (past ⟨.delete tenant, .error e⟩ post))
    (deleted : ∀ had after, after.scene view =
        { site.scene view with estate := (site.scene view).estate.delete tenant } →
      Ensures s (f (.ok had)) after (past ⟨.delete tenant, .ok had⟩ post)) :
    Ensures s (Program.call (.delete tenant) >>= f) site post := by
  apply ensures_call
  refine (d.delete tenant site.outside).elim (motive := fun answer w =>
    Ensures s (f answer) { site with outside := w } (past ⟨.delete tenant, answer⟩ post)) ?_ ?_
  · intro e w kind same
    exact failed e _ kind (congrArg (Scene.mk site.cache) same)
  · intro had w changed
    exact deleted had _ (congrArg (Scene.mk site.cache) changed)

theorem ensures_create {secret : String} {f : Except ProvisionError String → Program α}
    (failed : ∀ e after, after.scene view = site.scene view →
      Ensures s (f (.error e)) after (past ⟨.create tenant secret, .error e⟩ post))
    (created : ∀ address after, after.scene view =
        { site.scene view with estate := (site.scene view).estate.start tenant } →
      Ensures s (f (.ok address)) after (past ⟨.create tenant secret, .ok address⟩ post)) :
    Ensures s (Program.call (.create tenant secret) >>= f) site post := by
  apply ensures_call
  refine (d.create tenant secret site.outside).elim (motive := fun answer w =>
    Ensures s (f answer) { site with outside := w }
      (past ⟨.create tenant secret, answer⟩ post)) ?_ ?_
  · intro e w _ same
    exact failed e _ (congrArg (Scene.mk site.cache) same)
  · intro address w changed
    exact created address _ (congrArg (Scene.mk site.cache) changed)

theorem ensures_reach {address : String} {f : Except ProvisionError Unit → Program α}
    (failed : ∀ e after, after.scene view = site.scene view →
      Ensures s (f (.error e)) after (past ⟨.reach tenant address, .error e⟩ post))
    (reached : ∀ after, after.scene view = site.scene view →
      Ensures s (f (.ok ())) after (past ⟨.reach tenant address, .ok ()⟩ post)) :
    Ensures s (Program.call (.reach tenant address) >>= f) site post := by
  apply ensures_call
  refine (d.reach tenant address site.outside).elim (motive := fun answer w =>
    Ensures s (f answer) { site with outside := w }
      (past ⟨.reach tenant address, answer⟩ post)) ?_ ?_
  · intro e w _ same
    exact failed e _ (congrArg (Scene.mk site.cache) same)
  · intro _ w same
    exact reached _ (congrArg (Scene.mk site.cache) same)

theorem ensures_destroy {f : Except ProvisionError Unit → Program α}
    (failed : ∀ e after, e.isNotFound = false → after.scene view = site.scene view →
      Ensures s (f (.error e)) after (past ⟨.destroy tenant, .error e⟩ post))
    (missing : ∀ e after, e.isNotFound = true →
      (site.scene view).estate.running tenant = false → after.scene view = site.scene view →
      Ensures s (f (.error e)) after (past ⟨.destroy tenant, .error e⟩ post))
    (stopped : ∀ after, after.scene view =
        { site.scene view with estate := (site.scene view).estate.stop tenant } →
      Ensures s (f (.ok ())) after (past ⟨.destroy tenant, .ok ()⟩ post)) :
    Ensures s (Program.call (.destroy tenant) >>= f) site post := by
  apply ensures_call
  refine (d.destroy tenant site.outside).elim (motive := fun answer w =>
    Ensures s (f answer) { site with outside := w } (past ⟨.destroy tenant, answer⟩ post)) ?_ ?_
  · intro e w absent same
    -- Callers treat an instance that is not found as destroyed, so this case is its own.
    cases known : e.isNotFound with
    | false => exact failed e _ known (congrArg (Scene.mk site.cache) same)
    | true => exact missing e _ known (absent known) (congrArg (Scene.mk site.cache) same)
  · intro _ w changed
    exact stopped _ (congrArg (Scene.mk site.cache) changed)

theorem ensures_secret {f : String → Program α}
    (drawn : ∀ secret after, after.scene view = site.scene view →
      Ensures s (f secret) after (past ⟨.secret, secret⟩ post)) :
    Ensures s (Program.call .secret >>= f) site post :=
  ensures_call (drawn _ _ (congrArg (Scene.mk site.cache) (d.secret site.outside)))

theorem ensures_post {parcel : Parcel} {f : Except TransportFailure Delivery → Program α}
    (posted : ∀ answer after, after.scene view = site.scene view →
      Ensures s (f answer) after (past ⟨.post parcel, answer⟩ post)) :
    Ensures s (Program.call (.post parcel) >>= f) site post :=
  ensures_call (posted _ _ (congrArg (Scene.mk site.cache) (d.post parcel site.outside)))

theorem ensures_outbound {access : Tenant} {message : Message}
    {f : Except MultiplexError Message → Program α}
    (looked : ∀ answer after, after.scene view = site.scene view →
      Ensures s (f answer) after (past ⟨.outbound access message, answer⟩ post)) :
    Ensures s (Program.call (.outbound access message) >>= f) site post :=
  ensures_call (looked _ _
    (congrArg (Scene.mk site.cache) (d.outbound access message site.outside)))

theorem ensures_inbound {access : Tenant} {message : Message} {response : Response}
    {f : Except MultiplexError Response → Program α}
    (looked : ∀ answer after, after.scene view = site.scene view →
      Ensures s (f answer) after (past ⟨.inbound access message response, answer⟩ post)) :
    Ensures s (Program.call (.inbound access message response) >>= f) site post :=
  ensures_call (looked _ _
    (congrArg (Scene.mk site.cache) (d.inbound access message response site.outside)))

end Dependable

/-! The same for accesses to what the relay itself holds. -/

namespace Site

variable {σ α : Type} {s : Surroundings σ} (view : σ → Estate) {site : Site σ} {tenant : String}
  {post : α → List Happening → Site σ → Prop}

theorem ensures_lookup {f : Lookup → Program α}
    (hit : ∀ entry, site.cache.entries.find? tenant = some entry →
      Ensures s (f (.hit entry)) site (past ⟨.lookup tenant, .hit entry⟩ post))
    (absent : site.cache.entries.find? tenant = none →
      Ensures s (f .miss) site (past ⟨.lookup tenant, .miss⟩ post))
    (expired : Ensures s (f .expired) { site with cache := site.cache.clear }
      (past ⟨.lookup tenant, .expired⟩ post)) :
    Ensures s (Program.call (.lookup tenant) >>= f) site post := by
  apply ensures_call
  simp only [answer, Cache.lookup]
  -- The clock decides first; only a cache that is not stale is looked into.
  split
  · exact expired
  · simp only [Cache.peek]
    cases held : site.cache.entries.find? tenant with
    | some entry => exact hit entry held
    | none => exact absent held

theorem ensures_generation {f : UInt64 → Program α}
    (read : Ensures s (f site.cache.generation) site
      (past ⟨.generation, site.cache.generation⟩ post)) :
    Ensures s (Program.call .generation >>= f) site post :=
  ensures_call read

theorem ensures_fill {entry : Entry} {generation : UInt64} {f : Bool → Program α}
    (current : (site.scene view).cache.generation = generation)
    (filled : ∀ now after, after.scene view =
        { site.scene view with cache := (site.scene view).cache.insert now entry } →
      Ensures s (f true) after (past ⟨.fill entry generation, true⟩ post)) :
    Ensures s (Program.call (.fill entry generation) >>= f) site post := by
  apply ensures_call
  have same : site.cache.generation = generation := current
  simp only [answer, Cache.fill, same, ↓reduceIte]
  exact filled (s.clock site.outside) _ rfl

theorem ensures_keep {entry : Entry} {f : Unit → Program α}
    (kept : ∀ now after, after.scene view =
        { site.scene view with cache := (site.scene view).cache.insert now entry } →
      Ensures s (f ()) after (past ⟨.keep entry, ()⟩ post)) :
    Ensures s (Program.call (.keep entry) >>= f) site post :=
  ensures_call (kept (s.clock site.outside) _ rfl)

theorem ensures_forget {f : Bool → Program α}
    (forgotten : ∀ had after, after.scene view =
        { site.scene view with cache := ((site.scene view).cache.remove tenant).2 } →
      Ensures s (f had) after (past ⟨.forget tenant, had⟩ post)) :
    Ensures s (Program.call (.forget tenant) >>= f) site post :=
  ensures_call (forgotten _ _ rfl)

theorem ensures_now {f : Timestamp → Program α}
    (read : ∀ now, Ensures s (f now) site (past ⟨.now, now⟩ post)) :
    Ensures s (Program.call .now >>= f) site post :=
  ensures_call (read _)

theorem ensures_cachedCount {f : Nat → Program α}
    (read : ∀ size, Ensures s (f size) site (past ⟨.cachedCount, size⟩ post)) :
    Ensures s (Program.call .cachedCount >>= f) site post :=
  ensures_call (read _)

theorem ensures_count {measure : Measure} {f : Unit → Program α}
    (counted : ∀ after, after.scene view = site.scene view →
      Ensures s (f ()) after (past ⟨.count measure, ()⟩ post)) :
    Ensures s (Program.call (.count measure) >>= f) site post :=
  ensures_call (counted _ rfl)

end Site
end TenantRelay
