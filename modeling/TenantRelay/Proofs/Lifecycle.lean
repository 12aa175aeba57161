import TenantRelay.Proofs.Effects
import TenantRelay.Proofs.FairWorld
import TenantRelay.Proofs.Registration

/-!
The store and the control plane agree over whole runs of the relay. Whoever has an
instance has an entry, unless a provision said that it left an instance behind, and an
entry holds what the instance was last made with.
-/

namespace TenantRelay

open Site Directory

def issued (tenant : String) (hs : List Happening) : List (String × String) :=
  hs.filterMap (·.issue? tenant)

theorem issued_append (tenant : String) (first rest : List Happening) :
    issued tenant (first ++ rest) = issued tenant first ++ issued tenant rest :=
  List.filterMap_append

theorem issued_counted (tenant : String) (hs : List Happening) (measure : Measure) :
    issued tenant (hs ++ [⟨.count measure, ()⟩]) = issued tenant hs := by
  rw [issued_append]
  exact List.append_nil _

theorem lasting_counted {tenant : String} {hs : List Happening} {measure : Measure}
    (lasting : ∀ h ∈ hs, h.stops tenant = false) :
    ∀ h ∈ hs ++ [⟨.count measure, ()⟩], h.stops tenant = false := by
  intro h member
  rcases List.mem_append.mp member with done | last
  · exact lasting h done
  · rw [List.mem_singleton.mp last]
    rfl

/-! What the two activities that change the estate leave of their tenant. -/

/-- What a registration leaves of a tenant of whom nothing was stored. -/
inductive Leftover (tenant : String) (x y : Estate) (result : Except DirectoryError Entry)
    (hs : List Happening) : Prop where
  | nothing : y.running tenant = false → y.stored tenant = none → Leftover tenant x y result hs
  | same : x.Agree tenant y → issued tenant hs = [] → (∀ h ∈ hs, h.stops tenant = false) →
      Leftover tenant x y result hs
  | stray {failure cause : String} : result = .error (.compensation tenant failure cause) →
      y.running tenant = true → y.stored tenant = none → Leftover tenant x y result hs
  | registered (entry : Entry) : y.stored tenant = some entry →
      issued tenant hs = [(entry.address, entry.secret)] → Leftover tenant x y result hs

theorem Directory.Registration.leaves {tenant : String} {x y : Scene}
    {result : Except DirectoryError Entry} {hs : List Happening}
    (unstored : x.estate.stored tenant = none) (registration : Registration tenant x result hs y) :
    Leftover tenant x.estate y.estate result hs := by
  cases registration with
  | refused => exact .same (.refl tenant _) rfl (by simp [Happening.stops])
  | unstored entry _ _ undoing =>
      cases undoing with
      | undone => exact .nothing (by simp) unstored
      | stuck _ => exact .stray rfl (by simp) unstored
  | undeleted entry own =>
      -- The instance is left running, but its entry is left with it.
      subst own
      exact .registered entry (by simp) (by simp [issued, creation, Happening.issue?])
  | unopened entry _ undoing =>
      cases undoing with
      | undone => exact .nothing (by simp) (by simp)
      | stuck _ => exact .stray rfl (by simp) (by simp)
  | registered entry own =>
      subst own
      exact .registered entry (by simp) (by simp [issued, creation, Happening.issue?])

theorem Directory.Unregistration.leaves {tenant : String} {x y : Scene}
    {result : Except DirectoryError Unit} {hs : List Happening}
    (unregistration : Unregistration tenant x result hs y) :
    issued tenant hs = [] ∧
    ((y.estate.running tenant = false ∧
      (y.estate.stored tenant = none ∨ y.estate.stored tenant = x.estate.stored tenant)) ∨
    (x.estate.Agree tenant y.estate ∧ ∀ h ∈ hs, h.stops tenant = false)) := by
  cases unregistration with
  | standing _ => exact ⟨rfl, Or.inr ⟨.refl tenant _, by simp [Happening.stops]⟩⟩
  | undeleted => exact ⟨rfl, Or.inl ⟨by simp, Or.inr rfl⟩⟩
  | unregistered => exact ⟨rfl, Or.inl ⟨by simp, Or.inl (by simp)⟩⟩

section
variable {σ : Type} (s : Surroundings σ) (view : σ → Estate) (tenant : String)

/-- Among these moments are those of a provision of the tenant that ended in a
compensation error, and the tenant has had an instance ever since. -/
def Compensated (ms : List (Moment σ)) : Prop :=
  ∃ earlier here later failure cause,
    ms = earlier ++ trace s (provision tenant) here ++ later ∧
    (run s (provision tenant) here).1 = .error (.compensation tenant failure cause) ∧
    (view (run s (provision tenant) here).2.outside).running tenant = true ∧
    ∀ m ∈ later, (view m.after.outside).running tenant = true

/-- The invariant of whole runs: what there is of a tenant after these moments. -/
structure Sound (ms : List (Moment σ)) (x : Estate) : Prop where
  known : x.running tenant = true → (x.stored tenant).isSome = true ∨ Compensated s view tenant ms
  current : ∀ entry, x.stored tenant = some entry →
    (issued tenant (ms.map (·.happening))).getLast? = some (entry.address, entry.secret)

variable {s view tenant} {ms more : List (Moment σ)} {x y : Estate}

theorem Compensated.extend (compensated : Compensated s view tenant ms)
    (lasting : ∀ m ∈ more, (view m.after.outside).running tenant = true) :
    Compensated s view tenant (ms ++ more) := by
  obtain ⟨earlier, here, later, failure, cause, rfl, fate, running, since⟩ := compensated
  refine ⟨earlier, here, later ++ more, failure, cause, by simp, fate, running, ?_⟩
  intro m member
  rcases List.mem_append.mp member with before | after
  · exact since m before
  · exact lasting m after

namespace Sound

theorem of_absent (idle : x.running tenant = false) (unstored : x.stored tenant = none) :
    Sound s view tenant ms x where
  known running := by rw [idle] at running; cases running
  current entry stored := by rw [unstored] at stored; cases stored

theorem extend (sound : Sound s view tenant ms x) (same : x.Agree tenant y)
    (unissued : issued tenant (more.map (·.happening)) = [])
    (lasting : x.running tenant = true →
      ∀ m ∈ more, (view m.after.outside).running tenant = true) :
    Sound s view tenant (ms ++ more) y where
  known running := by
    -- The instance ran before, so what was said of it then still holds.
    rw [same.1]
    rw [same.2] at running
    rcases sound.known running with stored | compensated
    · exact Or.inl stored
    · exact Or.inr (compensated.extend (lasting running))
  current entry stored := by
    rw [same.1] at stored
    rw [List.map_append, issued_append, unissued, List.append_nil]
    exact sound.current entry stored

end Sound

def Keeps {α : Type} (s : Surroundings σ) (view : σ → Estate) (tenant : String) (p : Program α)
    (site : Site σ) : Prop :=
  ∀ ms, Sound s view tenant ms (view site.outside) →
    Sound s view tenant (ms ++ trace s p site) (view (run s p site).2.outside)

namespace Keeps

variable {α β : Type} {site : Site σ}

theorem issued_trace (ms : List (Moment σ)) (p : Program α) (site : Site σ) :
    issued tenant ((ms ++ trace s p site).map (·.happening)) =
      issued tenant (ms.map (·.happening)) ++ issued tenant (calls s p site) := by
  rw [List.map_append, issued_append]
  rfl

theorem pure (a : α) : Keeps s view tenant (Pure.pure a) site := by
  intro ms sound
  rw [trace_pure, List.append_nil]
  exact sound

theorem bind {p : Program α} {f : α → Program β} (first : Keeps s view tenant p site)
    (rest : Keeps s view tenant (f (run s p site).1) (run s p site).2) :
    Keeps s view tenant (p >>= f) site := by
  intro ms sound
  rw [trace_bind, run_bind, ← List.append_assoc]
  exact rest _ (first ms sound)

variable (d : Dependable s view (·.isOfStore))

include d

theorem undisturbed {p : Program α}
    (same : (view site.outside).Agree tenant (view (run s p site).2.outside))
    (unissued : issued tenant (calls s p site) = [])
    (lasting : ∀ h ∈ calls s p site, h.stops tenant = false) : Keeps s view tenant p site := by
  intro ms sound
  refine sound.extend same unissued ?_
  intro running
  exact d.running_throughout site running lasting

theorem of_spares {p : Program α} (spared : p.Spares tenant) : Keeps s view tenant p site := by
  have untouched : ∀ h ∈ calls s p site, h.access.concerns tenant = false :=
    calls_only s spared site
  apply undisturbed d (d.agree_of_spares spared site)
  · apply List.filterMap_eq_nil_iff.mpr
    intro h member
    exact Happening.issue?_of_spared (untouched h member)
  · intro h member
    exact Happening.stops_of_spared (untouched h member)

/-- Only here an instance may be left without an entry, and the error says so. -/
theorem provision (unstored : (view site.outside).stored tenant = none) :
    Keeps s view tenant (Directory.provision tenant) site := by
  obtain ⟨done, happened, registration⟩ := provision_registers d tenant site
  have counted :
      issued tenant (calls s (Directory.provision tenant) site) = issued tenant done := by
    rw [happened, issued_counted]
  cases registration.leaves unstored with
  | nothing idle gone => exact fun _ _ => .of_absent idle gone
  | same same unissued lasting =>
      apply undisturbed d same (counted.trans unissued)
      rw [happened]
      exact lasting_counted lasting
  | stray fate running gone =>
      -- These very moments are the ones to blame from now on.
      intro ms _
      constructor
      · intro _
        exact Or.inr ⟨ms, site, [], _, _, by simp, fate, running, by simp⟩
      · intro entry stored
        exact absurd (gone.symm.trans stored) (by simp)
  | registered entry stored made =>
      intro ms _
      constructor
      · intro _
        left
        exact Option.isSome_iff_exists.mpr ⟨entry, stored⟩
      · intro other held
        have own : entry = other := Option.some.inj (stored.symm.trans held)
        subst own
        rw [issued_trace, counted, made]
        simp

theorem deprovision : Keeps s view tenant (Directory.deprovision tenant) site := by
  obtain ⟨done, happened, unregistration⟩ := deprovision_unregisters d tenant site
  obtain ⟨unissued, outcome⟩ := unregistration.leaves
  have counted : issued tenant (calls s (Directory.deprovision tenant) site) = [] := by
    rw [happened, issued_counted, unissued]
  rcases outcome with ⟨idle, gone | kept⟩ | ⟨same, lasting⟩
  · exact fun _ _ => .of_absent idle gone
  -- The entry outlives its instance, and still tells how that was made.
  · intro ms sound
    constructor
    · intro running
      exact absurd (idle.symm.trans running) (by simp)
    · intro entry stored
      rw [issued_trace, counted, List.append_nil]
      exact sound.current entry (kept.symm.trans stored)
  · apply undisturbed d same counted
    rw [happened]
    exact lasting_counted lasting

/-! The same whoever an activity is about. -/

theorem provision_of_unstored {own : String} (unstored : (view site.outside).stored own = none) :
    Keeps s view tenant (Directory.provision own) site := by
  by_cases same : own = tenant
  · subst same
    exact provision d unstored
  · exact of_spares d (provision_spares same)

theorem deprovision_of_any (own : String) :
    Keeps s view tenant (Directory.deprovision own) site := by
  by_cases same : own = tenant
  · subst same
    exact deprovision d
  · exact of_spares d (deprovision_spares same)

variable (x : Multiplexer) (access : Tenant) (message : Message)

theorem subscribe : Keeps s view tenant (x.subscribe access message) site := by
  unfold Multiplexer.subscribe
  refine (of_spares d (resolve_spares access.id)).bind ?_
  have resolution := resolve_resolves d access.id site
  cases resolved : (run s (resolve access.id) site).1 with
  | ok entry => exact of_spares d (x.sendTo_spares access message subscribeEvent entry)
  | error missing =>
      cases unknown : missing.isNotFound with
      | false =>
          simp only [unknown, Bool.false_eq_true, ↓reduceIte]
          exact pure _
      | true =>
          simp only [unknown, ↓reduceIte]
          -- What was not found is not stored, which is what a provision needs.
          rw [Ensures, resolved] at resolution
          unfold Multiplexer.subscribeNew
          refine (provision_of_unstored d (resolution.stored_eq_none unknown)).bind ?_
          split
          case h_1 => exact pure _
          case h_2 entry _ =>
            refine (of_spares d (x.sendTo_spares access message subscribeEvent entry)).bind ?_
            split
            case h_1 => exact pure _
            case h_2 =>
              unfold Multiplexer.undoSubscribe
              refine (deprovision_of_any d access.id).bind ?_
              split <;> exact pure _

theorem unsubscribe : Keeps s view tenant (x.unsubscribe access message) site := by
  unfold Multiplexer.unsubscribe
  refine (of_spares d (x.forward_spares access message unsubscribeEvent)).bind ?_
  refine (deprovision_of_any d access.id).bind ?_
  split <;> exact pure _

end Keeps
end

inductive Operation where
  | request (p : RequestParams Dict)
  | event (p : EventParams)
  | validation (client : Client) (config : Dict)

namespace Multiplexer

variable (x : Multiplexer)

def perform : Operation → Relayed
  | .request p => x.forwardRequest p
  | .event p => x.forwardEvent p
  | .validation client config => x.forwardValidation client config

section
variable {σ : Type} (s : Surroundings σ) (view : σ → Estate)

/-- Operations one after another, with what happened in them so far. In between time
goes by, and anything else that leaves the estate alone. -/
inductive Course (start : Site σ) : List (Moment σ) → Site σ → Prop where
  | start : Course start [] start
  | performed {ms : List (Moment σ)} {site : Site σ} (op : Operation) : Course start ms site →
      Course start (ms ++ trace s (x.perform op) site) (run s (x.perform op) site).2
  | waited {ms : List (Moment σ)} {site : Site σ} {w : σ} : view w = view site.outside →
      Course start ms site → Course start ms { site with outside := w }

variable {s view}

theorem keeps_perform (d : Dependable s view (·.isOfStore)) {tenant : String} {site : Site σ}
    (op : Operation) : Keeps s view tenant (x.perform op) site := by
  cases op with
  | request p => exact .of_spares d (x.forward_spares _ _ _)
  | validation client config => exact .of_spares d (x.forward_spares _ _ _)
  | event p =>
      show Keeps s view tenant (x.forwardEvent p) site
      unfold forwardEvent
      split
      case isTrue => exact .subscribe d x _ _
      case isFalse =>
        split
        case isTrue => exact .unsubscribe d x _ _
        case isFalse => exact .of_spares d (x.forward_spares _ _ _)

theorem Course.sound (d : Dependable s view (·.isOfStore)) {start site : Site σ}
    {ms : List (Moment σ)} (empty : view start.outside = .empty)
    (course : x.Course s view start ms site) (tenant : String) :
    Sound s view tenant ms (view site.outside) := by
  induction course with
  | start =>
      rw [empty]
      exact .of_absent rfl rfl
  | performed op _ ih => exact x.keeps_perform d op _ ih
  | @waited ms site w same _ ih =>
      show Sound s view tenant ms (view w)
      rw [same]
      exact ih

/-- After any course of operations that starts with nothing, whoever has an instance has
an entry, unless a provision ended in a compensation error since there was none, and
every entry holds the address and the secret of the last instance that was made. -/
theorem lifecycle_agrees (d : Dependable s view (·.isOfStore)) {start site : Site σ}
    {ms : List (Moment σ)} (empty : view start.outside = .empty)
    (course : x.Course s view start ms site) (tenant : String) :
    ((view site.outside).running tenant = true →
      ((view site.outside).stored tenant).isSome = true ∨ Compensated s view tenant ms) ∧
    ∀ entry, (view site.outside).stored tenant = some entry →
      (issued tenant (ms.map (·.happening))).getLast? = some (entry.address, entry.secret) := by
  have sound := course.sound x d empty tenant
  exact ⟨sound.known, sound.current⟩

end

def unlucky : FairWorld :=
  .facing
    { put := .queued [some (.store "locked")]
      destroy := .queued [some (.api 503 "busy")] }
    { get := by simp [Script.Holds]
      put := by simp [Script.Holds, DirectoryError.isOfStore]
      delete := by simp [Script.Holds]
      destroy := by simp [Script.Holds, ProvisionError.isNotFound] }

def subscription (tenant : String) : Operation :=
  .event { client := ⟨⟨tenant, "token", none⟩⟩, eventName := subscribeEvent, data := ∅
           config := ∅, idempotencyKey := "once" }

def unluckyMoments : List (Moment FairWorld) :=
  let first := perform {} (subscription "acme")
  trace FairWorld.accepting first { outside := unlucky } ++
    trace FairWorld.accepting (perform {} (subscription "bolt"))
      (run FairWorld.accepting first { outside := unlucky }).2

def unluckySite : Site FairWorld :=
  let first := perform {} (subscription "acme")
  (run FairWorld.accepting (perform {} (subscription "bolt"))
    (run FairWorld.accepting first { outside := unlucky }).2).2

/-- The first tenant is left with an instance, as an error said, and the second one with
an entry of what was made last. -/
theorem lifecycle_agrees_when_unlucky :
    Course {} FairWorld.accepting FairWorld.estate { outside := unlucky } unluckyMoments
      unluckySite ∧
    Compensated FairWorld.accepting FairWorld.estate "acme" unluckyMoments ∧
    (issued "bolt" (unluckyMoments.map (·.happening))).getLast? =
      some ("http://bolt", "<secret-2>") := by
  have course : Course {} FairWorld.accepting FairWorld.estate { outside := unlucky }
      unluckyMoments unluckySite :=
    (Course.start.performed (subscription "acme")).performed (subscription "bolt")
  have running : (FairWorld.estate unluckySite.outside).running "acme" = true := by decide +kernel
  have unstored : (FairWorld.estate unluckySite.outside).stored "acme" = none := by decide +kernel
  have stored : (FairWorld.estate unluckySite.outside).stored "bolt" =
      some { tenant := "bolt", address := "http://bolt", secret := "<secret-2>"
             createdAt := ⟨⟨2024, 1, 2⟩, 3, 4, 5, 0⟩ } := by
    decide +kernel
  have agrees := lifecycle_agrees {} FairWorld.accepting_dependable rfl course
  refine ⟨course, ?_, (agrees "bolt").2 _ stored⟩
  rcases (agrees "acme").1 running with known | compensated
  · rw [unstored] at known
    cases known
  · exact compensated

end Multiplexer
end TenantRelay
