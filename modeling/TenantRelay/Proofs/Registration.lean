import TenantRelay.Directory.Service
import TenantRelay.Proofs.Estate

/-!
What the activities of the directory come to. Each has a relation between the scene
before it, its result, what happens during it and the scene after it, with one case for
each way it can end; whoever uses an activity goes by its cases.
-/

namespace TenantRelay

/-- A lookup that finds nothing: what happens, and the cache that is left. -/
inductive Cache.Missed (tenant : String) (c : Cache) : List Happening → Cache → Prop where
  | absent : c.entries.find? tenant = none → Missed tenant c [⟨.lookup tenant, .miss⟩] c
  | expired : Missed tenant c
      [⟨.lookup tenant, .expired⟩, ⟨.count (.refresh "ttl_expired" 0), ()⟩] c.clear

namespace Directory

open Site Program

inductive Resolution (tenant : String) (x : Scene) :
    Except DirectoryError Entry → List Happening → Scene → Prop where
  | hit {entry : Entry} : x.cache.entries.find? tenant = some entry →
      Resolution tenant x (.ok entry)
        [⟨.lookup tenant, .hit entry⟩, ⟨.count (.lookup "hit"), ()⟩] x
  | read {entry : Entry} {first : List Happening} {c : Cache} {generation : UInt64}
      {now size : Nat} :
      Cache.Missed tenant x.cache first c → x.estate.stored tenant = some entry →
      Resolution tenant x (.ok entry)
        (first ++ [⟨.generation, generation⟩, ⟨.find tenant, .ok (some entry)⟩,
          ⟨.count (.lookup "miss"), ()⟩, ⟨.fill entry generation, true⟩,
          ⟨.cachedCount, size⟩, ⟨.count (.cached size), ()⟩])
        { x with cache := c.insert now entry }
  | absent {first : List Happening} {c : Cache} {generation : UInt64} :
      Cache.Missed tenant x.cache first c → x.estate.stored tenant = none →
      Resolution tenant x (.error (.notFound tenant))
        (first ++ [⟨.generation, generation⟩, ⟨.find tenant, .ok none⟩,
          ⟨.count (.lookup "not_found"), ()⟩])
        { x with cache := c }
  | failed {first : List Happening} {c : Cache} {generation : UInt64} {e : DirectoryError} :
      Cache.Missed tenant x.cache first c → e.isOfStore = true →
      Resolution tenant x (.error e)
        (first ++ [⟨.generation, generation⟩, ⟨.find tenant, .error e⟩])
        { x with cache := c }

def creation (entry : Entry) : List Happening :=
  [⟨.secret, entry.secret⟩, ⟨.create entry.tenant entry.secret, .ok entry.address⟩,
    ⟨.now, entry.createdAt⟩]

inductive Undoing (tenant : String) (failure : DirectoryError) (x : Scene) :
    Except DirectoryError Entry → List Happening → Scene → Prop where
  | undone : Undoing tenant failure x (.error failure) [⟨.destroy tenant, .ok ()⟩]
      { x with estate := x.estate.stop tenant }
  -- What was just made is there, so this is no case of an instance that is not found.
  | stuck {e : ProvisionError} : e.isNotFound = false →
      Undoing tenant failure x (.error (compensation tenant failure e.message))
        [⟨.destroy tenant, .error e⟩] x

inductive Registration (tenant : String) (x : Scene) :
    Except DirectoryError Entry → List Happening → Scene → Prop where
  | refused {secret : String} {e : ProvisionError} :
      Registration tenant x (.error (.provision e))
        [⟨.secret, secret⟩, ⟨.create tenant secret, .error e⟩] x
  | unstored (entry : Entry) {e : DirectoryError} {result : Except DirectoryError Entry}
      {hs : List Happening} {after : Scene} : entry.tenant = tenant → e.isOfStore = true →
      Undoing tenant e { x with estate := x.estate.start tenant } result hs after →
      Registration tenant x result (creation entry ++ ⟨.put entry, .error e⟩ :: hs) after
  -- The instance is left alone where its entry could not be deleted.
  | undeleted (entry : Entry) {e : ProvisionError} {cleanup : DirectoryError} :
      entry.tenant = tenant →
      Registration tenant x (.error (compensation tenant (.provision e) cleanup.message))
        (creation entry ++ [⟨.put entry, .ok ()⟩, ⟨.reach tenant entry.address, .error e⟩,
          ⟨.delete tenant, .error cleanup⟩])
        { x with estate := (x.estate.start tenant).put entry }
  | unopened (entry : Entry) {e : ProvisionError} {had : Bool}
      {result : Except DirectoryError Entry} {hs : List Happening} {after : Scene} :
      entry.tenant = tenant →
      Undoing tenant (.provision e)
        { x with estate := ((x.estate.start tenant).put entry).delete tenant } result hs after →
      Registration tenant x result
        (creation entry ++ ⟨.put entry, .ok ()⟩ :: ⟨.reach tenant entry.address, .error e⟩ ::
          ⟨.delete tenant, .ok had⟩ :: hs) after
  | registered (entry : Entry) {now size : Nat} : entry.tenant = tenant →
      Registration tenant x (.ok entry)
        (creation entry ++ [⟨.put entry, .ok ()⟩, ⟨.reach tenant entry.address, .ok ()⟩,
          ⟨.keep entry, ()⟩, ⟨.cachedCount, size⟩, ⟨.count (.cached size), ()⟩])
        { cache := x.cache.insert now entry, estate := (x.estate.start tenant).put entry }

inductive Unregistration (tenant : String) (x : Scene) :
    Except DirectoryError Unit → List Happening → Scene → Prop where
  | standing {e : ProvisionError} : e.isNotFound = false →
      Unregistration tenant x (.error (.provision e)) [⟨.destroy tenant, .error e⟩] x
  | undeleted {gone : Except ProvisionError Unit} {e : DirectoryError} :
      Unregistration tenant x (.error e) [⟨.destroy tenant, gone⟩, ⟨.delete tenant, .error e⟩]
        { x with estate := x.estate.stop tenant }
  -- An instance that is not found counts as stopped: it did not run.
  | unregistered {gone : Except ProvisionError Unit} {had forgotten : Bool} {size : Nat} :
      Unregistration tenant x (.ok ())
        [⟨.destroy tenant, gone⟩, ⟨.delete tenant, .ok had⟩, ⟨.forget tenant, forgotten⟩,
          ⟨.cachedCount, size⟩, ⟨.count (.cached size), ()⟩]
        { cache := (x.cache.remove tenant).2, estate := (x.estate.stop tenant).delete tenant }

theorem Resolution.estate_eq {tenant : String} {x y : Scene} {hs : List Happening}
    {result : Except DirectoryError Entry} (resolution : Resolution tenant x result hs y) :
    y.estate = x.estate := by
  cases resolution <;> rfl

theorem Resolution.stored_eq_none {tenant : String} {x y : Scene} {e : DirectoryError}
    {hs : List Happening} (resolution : Resolution tenant x (.error e) hs y)
    (unknown : e.isNotFound = true) : y.estate.stored tenant = none := by
  cases resolution with
  | absent _ absent => exact absent
  | failed _ storage =>
      rw [DirectoryError.isNotFound_of_isOfStore storage] at unknown
      cases unknown

theorem Unregistration.gone {tenant : String} {x y : Scene} {hs : List Happening}
    (unregistration : Unregistration tenant x (.ok ()) hs y) :
    y.estate.stored tenant = none ∧ y.cache.entries.find? tenant = none ∧
      y.estate.running tenant = false := by
  cases unregistration with
  | unregistered => simp [Cache.remove]

section
variable {σ α : Type} {s : Surroundings σ} {view : σ → Estate} (site : Site σ)

theorem counted_ensures {operation : String} {work : Program (Except DirectoryError α)}
    {ends : Except DirectoryError α → List Happening → Scene → Prop}
    (worked : Ensures s work site fun result hs after => ends result hs (after.scene view)) :
    Ensures s (counted operation work) site fun result hs after =>
      ∃ done, hs = done ++ [⟨.count (.provisioning operation (outcomeOf result)), ()⟩] ∧
        ends result done (after.scene view) := by
  unfold counted
  apply ensures_bind
  refine worked.mono ?_
  intro result hs middle ended
  apply ensures_count view
  intro last counted
  apply ensures_pure
  exact ⟨hs, rfl, counted ▸ ended⟩

end

section
variable {σ : Type} {s : Surroundings σ} {view : σ → Estate} {failing : DirectoryError → Prop}
  (d : Dependable s view failing) (tenant : String) (site : Site σ)

include d

theorem undoCreate_undoes {failure : DirectoryError}
    (made : (site.scene view).estate.running tenant = true) :
    Ensures s (undoCreate tenant failure) site fun result hs after =>
      Undoing tenant failure (site.scene view) result hs (after.scene view) := by
  unfold undoCreate
  apply d.ensures_destroy
  case failed =>
    intro e after known same
    simp only [known, Bool.false_eq_true, ↓reduceIte]
    apply ensures_pure
    show Undoing tenant failure (site.scene view) (.error _) [_] (after.scene view)
    rw [same]
    exact .stuck known
  case missing =>
    intro e after _ idle
    rw [made] at idle
    cases idle
  case stopped =>
    intro after stopped
    apply ensures_pure
    show Undoing tenant failure (site.scene view) (.error _) [_] (after.scene view)
    rw [stopped]
    exact .undone

theorem forget_unregisters {x : Scene} {gone : Except ProvisionError Unit}
    (stopped : site.scene view = { x with estate := x.estate.stop tenant }) :
    Ensures s (forget tenant) site (past ⟨.destroy tenant, gone⟩ fun result hs after =>
      Unregistration tenant x result hs (after.scene view)) := by
  unfold forget
  apply d.ensures_delete
  case failed =>
    intro e after _ same
    rw [stopped] at same
    apply ensures_pure
    show Unregistration tenant x (.error e) [_, _] (after.scene view)
    rw [same]
    exact .undeleted
  case deleted =>
    intro had deletedSite deleted
    rw [stopped] at deleted
    apply ensures_forget view
    intro forgotten forgottenSite removed
    rw [deleted] at removed
    apply ensures_cachedCount
    intro size
    apply ensures_count view
    intro last counted
    apply ensures_pure
    show Unregistration tenant x (.ok ()) [_, _, _, _, _] (last.scene view)
    rw [counted, removed]
    exact .unregistered

theorem unregister_unregisters :
    Ensures s (unregister tenant) site fun result hs after =>
      Unregistration tenant (site.scene view) result hs (after.scene view) := by
  generalize before : site.scene view = x
  unfold unregister
  apply d.ensures_destroy
  case failed =>
    intro e after known same
    rw [before] at same
    simp only [known, Bool.false_eq_true, ↓reduceIte]
    apply ensures_pure
    show Unregistration tenant x (.error _) [_] (after.scene view)
    rw [same]
    exact .standing known
  case missing =>
    intro e after known idle same
    rw [before] at idle same
    simp only [known, ↓reduceIte]
    exact forget_unregisters d tenant after (by rw [same, Estate.stop_of_not_running idle])
  case stopped =>
    intro after stopped
    rw [before] at stopped
    exact forget_unregisters d tenant after stopped

theorem deprovision_unregisters :
    Ensures s (deprovision tenant) site fun result hs after =>
      ∃ done, hs = done ++ [⟨.count (.provisioning "deprovision" (outcomeOf result)), ()⟩] ∧
        Unregistration tenant (site.scene view) result done (after.scene view) :=
  counted_ensures site (unregister_unregisters d tenant site)

end

/-! Whoever reads the store has to know its errors from the news that there is no entry. -/

section
variable {σ : Type} {s : Surroundings σ} {view : σ → Estate}
  (d : Dependable s view (·.isOfStore)) (tenant : String) (site : Site σ)

include d

/-- The generation is read and compared without a removal in between, so what was read
is always kept. -/
theorem readStore_resolves {x : Scene} {first : List Happening} {c : Cache}
    (here : site.scene view = { x with cache := c })
    (missed : Cache.Missed tenant x.cache first c) :
    Ensures s (readStore tenant) site fun result hs after =>
      Resolution tenant x result (first ++ hs) (after.scene view) := by
  unfold readStore
  apply ensures_generation
  apply d.ensures_find
  case failed =>
    intro e after storage same
    apply ensures_pure
    show Resolution tenant x (.error e) (first ++ [_, _]) (after.scene view)
    rw [same, here]
    exact .failed missed storage
  case read =>
    intro found after held same
    rw [here] at held same
    cases found with
    | none =>
        apply ensures_count view
        intro last counted
        apply ensures_pure
        show Resolution tenant x (.error (.notFound tenant)) (first ++ [_, _, _]) (last.scene view)
        rw [counted, same]
        exact .absent missed held.symm
    | some entry =>
        apply ensures_count view
        intro next counted
        rw [same] at counted
        apply ensures_fill view
        -- Nothing was removed since the generation was read.
        case current => rw [counted, ← congrArg Scene.cache here]; rfl
        case filled =>
          intro now kept filled
          rw [counted] at filled
          apply ensures_cachedCount
          intro size
          apply ensures_count view
          intro last counted
          apply ensures_pure
          show Resolution tenant x (.ok entry) (first ++ [_, _, _, _, _, _]) (last.scene view)
          rw [counted, filled]
          exact .read missed held.symm

theorem resolve_resolves :
    Ensures s (resolve tenant) site fun result hs after =>
      Resolution tenant (site.scene view) result hs (after.scene view) := by
  unfold resolve
  apply ensures_lookup
  case hit =>
    intro entry held
    apply ensures_count view
    intro last counted
    apply ensures_pure
    show Resolution tenant (site.scene view) (.ok entry) [_, _] (last.scene view)
    rw [counted]
    exact .hit held
  case absent =>
    intro none
    exact readStore_resolves d tenant site rfl (.absent none)
  case expired =>
    apply ensures_count view
    intro next counted
    exact readStore_resolves d tenant next counted .expired

theorem register_registers :
    Ensures s (register tenant) site fun result hs after =>
      Registration tenant (site.scene view) result hs (after.scene view) := by
  generalize before : site.scene view = x
  unfold register
  apply d.ensures_secret
  intro secret drawnSite drawn
  rw [before] at drawn
  apply d.ensures_create
  case failed =>
    intro e after same
    rw [drawn] at same
    apply ensures_pure
    show Registration tenant x (.error (.provision e)) [_, _] (after.scene view)
    rw [same]
    exact .refused
  case created =>
    intro address createdSite created
    rw [drawn] at created
    apply ensures_now
    intro now
    apply d.ensures_put
    case failed =>
      intro e after storage same
      rw [created] at same
      refine (undoCreate_undoes d tenant after (by rw [same]; simp)).mono ?_
      intro result hs last undoing
      rw [same] at undoing
      exact .unstored ⟨tenant, address, secret, now⟩ rfl storage undoing
    case stored =>
      intro storedSite stored
      rw [created] at stored
      apply d.ensures_reach
      case failed =>
        intro e closedSite closed
        rw [stored] at closed
        apply d.ensures_delete
        case failed =>
          intro cleanup after _ same
          rw [closed] at same
          apply ensures_pure
          show Registration tenant x (.error _) _ (after.scene view)
          rw [same]
          exact .undeleted ⟨tenant, address, secret, now⟩ rfl
        case deleted =>
          intro had after deleted
          rw [closed] at deleted
          refine (undoCreate_undoes d tenant after (by rw [deleted]; simp)).mono ?_
          intro result hs last undoing
          rw [deleted] at undoing
          exact .unopened ⟨tenant, address, secret, now⟩ rfl undoing
      case reached =>
        intro openSite opened
        rw [stored] at opened
        apply ensures_keep view
        intro clock keptSite kept
        rw [opened] at kept
        apply ensures_cachedCount
        intro size
        apply ensures_count view
        intro last counted
        apply ensures_pure
        show Registration tenant x (.ok _) _ (last.scene view)
        rw [counted, kept]
        exact .registered ⟨tenant, address, secret, now⟩ rfl

theorem provision_registers :
    Ensures s (provision tenant) site fun result hs after =>
      ∃ done, hs = done ++ [⟨.count (.provisioning "provision" (outcomeOf result)), ()⟩] ∧
        Registration tenant (site.scene view) result done (after.scene view) :=
  counted_ensures site (register_registers d tenant site)

end

end Directory
end TenantRelay
