import TenantRelay.Proofs.FairWorld
import TenantRelay.Proofs.Registration

/-!
The cache of the directory never tells anything that the store does not. What is used
of the callers is their one duty: a tenant is provisioned only after it was resolved
and not found. Without it a cached entry of the tenant would outlive the stored one
when a provision is undone.
-/

namespace TenantRelay

/-- Entries are stored under their tenants, and what is cached is what is stored. -/
structure Scene.Transparent (x : Scene) : Prop where
  keyed : ∀ tenant entry, x.estate.stored tenant = some entry → entry.tenant = tenant
  faithful : ∀ tenant entry, x.cache.entries.find? tenant = some entry →
    x.estate.stored tenant = some entry

namespace Cache

theorem Missed.find?_of_find? {tenant key : String} {first : List Happening} {c after : Cache}
    {entry : Entry} (missed : Missed tenant c first after)
    (held : after.entries.find? key = some entry) :
    c.entries.find? key = some entry := by
  cases missed with
  | absent _ => exact held
  | expired => cases held

end Cache

namespace Scene.Transparent

open Directory

variable {x y : Scene} {tenant : String}

theorem of_missed {first : List Happening} {c : Cache} (transparent : x.Transparent)
    (missed : Cache.Missed tenant x.cache first c) : Scene.Transparent { x with cache := c } where
  keyed := transparent.keyed
  faithful key entry held := transparent.faithful key entry (missed.find?_of_find? held)

theorem of_cleared (transparent : x.Transparent) :
    Scene.Transparent { x with cache := x.cache.clear } where
  keyed := transparent.keyed
  faithful _ _ cached := by cases cached

theorem of_stored {estate : Estate} (transparent : x.Transparent)
    (same : estate.stored = x.estate.stored) : Scene.Transparent { x with estate } where
  keyed key entry held := transparent.keyed key entry (same ▸ held)
  faithful key entry cached := same ▸ transparent.faithful key entry cached

theorem of_kept {entry : Entry} {now : Nat} (transparent : x.Transparent)
    (held : x.estate.stored entry.tenant = some entry) :
    Scene.Transparent { x with cache := x.cache.insert now entry } where
  keyed := transparent.keyed
  faithful key other found := by
    rw [Cache.find?_insert] at found
    by_cases same : key = entry.tenant
    · simp only [same, ↓reduceIte, Option.some.injEq] at found
      subst found
      rw [same]
      exact held
    · simp only [same, ↓reduceIte] at found
      exact transparent.faithful key other found

theorem of_resolution {result : Except DirectoryError Entry} {hs : List Happening}
    (transparent : x.Transparent) (resolution : Resolution tenant x result hs y) :
    y.Transparent := by
  cases resolution with
  | hit _ => exact transparent
  | read missed held =>
      -- It is kept under its own tenant, who is the one it was stored for.
      have own := transparent.keyed tenant _ held
      subst own
      exact (transparent.of_missed missed).of_kept held
  | absent missed _ => exact transparent.of_missed missed
  | failed missed _ => exact transparent.of_missed missed

theorem not_cached (transparent : x.Transparent) (absent : x.estate.stored tenant = none) :
    x.cache.entries.find? tenant = none := by
  cases cached : x.cache.entries.find? tenant with
  | none => rfl
  | some entry => rw [transparent.faithful tenant entry cached] at absent; cases absent

theorem of_absent {estate : Estate} (transparent : x.Transparent)
    (absent : x.estate.stored tenant = none)
    (others : ∀ key, key ≠ tenant → estate.stored key = x.estate.stored key)
    (own : ∀ entry, estate.stored tenant = some entry → entry.tenant = tenant) :
    Scene.Transparent { x with estate } where
  keyed key entry held := by
    by_cases same : key = tenant
    · subst same; exact own entry held
    · exact transparent.keyed key entry ((others key same).symm.trans held)
  faithful key entry cached := by
    by_cases same : key = tenant
    · subst same
      rw [transparent.not_cached absent] at cached
      cases cached
    · exact (others key same).trans (transparent.faithful key entry cached)

theorem of_undoing {failure : DirectoryError} {result : Except DirectoryError Entry}
    {hs : List Happening} (transparent : x.Transparent)
    (undoing : Undoing tenant failure x result hs y) : y.Transparent := by
  cases undoing with
  | undone => exact transparent.of_stored rfl
  | stuck _ => exact transparent

theorem of_registration {result : Except DirectoryError Entry} {hs : List Happening}
    (transparent : x.Transparent) (absent : x.estate.stored tenant = none)
    (registration : Registration tenant x result hs y) : y.Transparent := by
  cases registration with
  | refused => exact transparent
  | unstored _ _ _ undoing =>
      have started : Scene.Transparent { x with estate := x.estate.start tenant } :=
        transparent.of_stored rfl
      exact started.of_undoing undoing
  | undeleted entry own =>
      -- The entry stays stored, but it never was in the cache.
      subst own
      apply transparent.of_absent absent
      · intro key other; simp [other]
      · intro held found; simp at found; rw [← found]
  | unopened entry own undoing =>
      subst own
      refine (transparent.of_absent absent ?_ ?_).of_undoing undoing
      · intro key other; simp [other]
      · intro held found; simp at found
  | registered entry own =>
      subst own
      have stored : Scene.Transparent
          { x with estate := (x.estate.start entry.tenant).put entry } := by
        apply transparent.of_absent absent
        · intro key other; simp [other]
        · intro held found; simp at found; rw [← found]
      exact stored.of_kept (by simp)

theorem of_unregistration {result : Except DirectoryError Unit} {hs : List Happening}
    (transparent : x.Transparent) (unregistration : Unregistration tenant x result hs y) :
    y.Transparent := by
  cases unregistration with
  | standing _ => exact transparent
  | undeleted => exact transparent.of_stored rfl
  | unregistered =>
      constructor
      · intro key entry held
        by_cases same : key = tenant
        · simp [same] at held
        · exact transparent.keyed key entry (by simpa [same] using held)
      · intro key entry held
        rw [Cache.find?_remove] at held
        by_cases same : key = tenant
        · simp [same] at held
        · simpa [same] using transparent.faithful key entry (by simpa [same] using held)

end Scene.Transparent

namespace Directory

open Site

def registered (tenant : String) : Option Entry → Except DirectoryError Entry
  | some entry => .ok entry
  | none => .error (.notFound tenant)

theorem Resolution.answers {tenant : String} {x y : Scene} {result : Except DirectoryError Entry}
    {hs : List Happening} (transparent : x.Transparent)
    (resolution : Resolution tenant x result hs y) :
    (∃ e : DirectoryError, e.isOfStore = true ∧ ⟨.find tenant, .error e⟩ ∈ hs ∧
        result = .error e) ∨
      result = registered tenant (x.estate.stored tenant) := by
  cases resolution with
  | hit cached =>
      right
      rw [transparent.faithful tenant _ cached, registered]
  | read _ held =>
      right
      rw [held, registered]
  | absent _ absent =>
      right
      rw [absent, registered]
  | @failed _ _ _ e _ storage => exact Or.inl ⟨e, storage, by simp, rfl⟩

def unknown (tenant : String) : Except DirectoryError Entry → Option String
  | .ok _ => none
  | .error e => if e.isNotFound then some tenant else none

section
variable {σ : Type} (s : Surroundings σ) (view : σ → Estate)

/-- Using the directory, one operation after another. The first index is the tenant, if
any, whom the operation before did not find; nobody else is provisioned. Time goes by
and the cache is cleared whenever it may be. -/
inductive Use (start : Site σ) : Option String → Site σ → Prop where
  | start : Use start none start
  | resolve {missing : Option String} {site : Site σ} (tenant : String) :
      Use start missing site →
      Use start (unknown tenant (run s (resolve tenant) site).1) (run s (resolve tenant) site).2
  -- The duty of whoever provisions stands in the index.
  | provision {tenant : String} {site : Site σ} : Use start (some tenant) site →
      Use start none (run s (provision tenant) site).2
  | deprovision {missing : Option String} {site : Site σ} (tenant : String) :
      Use start missing site → Use start none (run s (deprovision tenant) site).2
  | wait {missing : Option String} {site : Site σ} {w : σ} : view w = view site.outside →
      Use start missing site → Use start missing { site with outside := w }
  | clear {missing : Option String} {site : Site σ} :
      Use start missing site → Use start missing { site with cache := site.cache.clear }

variable {s view}

/-- What a use keeps: the cache is transparent, and nothing is stored of one who has
just not been found. -/
theorem Use.transparent (d : Dependable s view (·.isOfStore)) {start site : Site σ}
    {missing : Option String} (initial : (start.scene view).Transparent)
    (use : Use s view start missing site) :
    (site.scene view).Transparent ∧
      ∀ tenant, missing = some tenant → (site.scene view).estate.stored tenant = none := by
  induction use with
  | start => exact ⟨initial, by simp⟩
  | @resolve _ site tenant _ ih =>
      -- Only here a tenant becomes one that may be provisioned.
      have resolution := resolve_resolves d tenant site
      refine ⟨ih.1.of_resolution resolution, ?_⟩
      intro key same
      cases result : (run s (Directory.resolve tenant) site).1 with
      | ok entry => simp [result, unknown] at same
      | error e =>
          simp only [result, unknown, Option.ite_none_right_eq_some, Option.some.injEq] at same
          rw [Ensures, result] at resolution
          exact same.2 ▸ resolution.stored_eq_none same.1
  | @provision tenant site _ ih =>
      obtain ⟨hs, _, registration⟩ := provision_registers d tenant site
      exact ⟨ih.1.of_registration (ih.2 tenant rfl) registration, by simp⟩
  | @deprovision _ site tenant _ ih =>
      obtain ⟨hs, _, unregistration⟩ := deprovision_unregisters d tenant site
      exact ⟨ih.1.of_unregistration unregistration, by simp⟩
  | @wait _ site w same _ ih =>
      have unchanged : Site.scene view { site with outside := w } = site.scene view :=
        congrArg (Scene.mk site.cache) same
      rw [unchanged]
      exact ih
  | clear _ ih => exact ⟨ih.1.of_cleared, ih.2⟩

/-- After any use of the directory that starts with an empty cache, what is cached is
what is stored, and resolving tells what is stored unless the store fails to be read. -/
theorem cache_transparent (d : Dependable s view (·.isOfStore)) {start site : Site σ}
    {missing : Option String} (cold : start.cache.entries = ∅)
    (keyed : ∀ tenant entry, (view start.outside).stored tenant = some entry →
      entry.tenant = tenant)
    (use : Use s view start missing site) :
    (∀ tenant entry, site.cache.entries.find? tenant = some entry →
      (view site.outside).stored tenant = some entry) ∧
    ∀ tenant, (∃ e : DirectoryError, e.isOfStore = true ∧
        ⟨.find tenant, .error e⟩ ∈ calls s (resolve tenant) site ∧
        (run s (resolve tenant) site).1 = .error e) ∨
      (run s (resolve tenant) site).1 =
        registered tenant ((view site.outside).stored tenant) := by
  have initial : (start.scene view).Transparent := by
    refine ⟨keyed, ?_⟩
    intro tenant entry cached
    rw [show (start.scene view).cache.entries = ∅ from cold] at cached
    cases cached
  have transparent := (use.transparent d initial).1
  exact ⟨transparent.faithful, fun tenant =>
    (resolve_resolves d tenant site).answers transparent⟩

end

def jammed : FairWorld :=
  .facing
    { reach := .standing (some (.config "closed"))
      delete := .standing (some (.store "read-only")) }
    { get := by simp [Script.Holds]
      put := by simp [Script.Holds]
      delete := by simp [Script.Holds, DirectoryError.isOfStore]
      destroy := by simp [Script.Holds] }

def jammedSite : Site FairWorld :=
  let sought := (run FairWorld.accepting (resolve "acme") { outside := jammed }).2
  (run FairWorld.accepting (provision "acme") sought).2

/-- A tenant is looked for in vain and provisioned, and the provision cannot be undone. -/
theorem cache_transparent_when_jammed :
    Use FairWorld.accepting FairWorld.estate { outside := jammed } none jammedSite ∧
    (∀ tenant entry, jammedSite.cache.entries.find? tenant = some entry →
      (FairWorld.estate jammedSite.outside).stored tenant = some entry) ∧
    ∀ tenant, (∃ e : DirectoryError, e.isOfStore = true ∧
        ⟨.find tenant, .error e⟩ ∈ calls FairWorld.accepting (resolve tenant) jammedSite ∧
        (run FairWorld.accepting (resolve tenant) jammedSite).1 = .error e) ∨
      (run FairWorld.accepting (resolve tenant) jammedSite).1 =
        registered tenant ((FairWorld.estate jammedSite.outside).stored tenant) := by
  have sought : Use FairWorld.accepting FairWorld.estate { outside := jammed } (some "acme")
      (run FairWorld.accepting (resolve "acme") { outside := jammed }).2 :=
    Use.resolve "acme" .start
  have use : Use FairWorld.accepting FairWorld.estate { outside := jammed } none jammedSite :=
    .provision sought
  have unstored : ∀ tenant entry,
      (FairWorld.estate jammed).stored tenant = some entry → entry.tenant = tenant := by
    intro tenant entry held
    cases held
  exact ⟨use, cache_transparent FairWorld.accepting_dependable rfl unstored use⟩

end Directory
end TenantRelay
