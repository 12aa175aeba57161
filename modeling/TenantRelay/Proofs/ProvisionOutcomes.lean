import TenantRelay.Proofs.Effects
import TenantRelay.Proofs.Subscription
import TenantRelay.Proofs.Transparency

/-!
Every way in which making an instance for a tenant ends, step by step. The instance is made, its
entry stored and the instance opened, in this order, and each only if the one before it
succeeded. What the first failure leaves behind is taken back, and where it cannot be the error
says so.
-/

namespace TenantRelay

open Site

/-- The steps by which an instance is made. Neither the way back nor what the relay does to its
own cache is one. -/
def Access.isStep : Access → Bool
  | create _ _ => true
  | put _ => true
  | reach _ _ => true
  | _ => false

def stepsOf (hs : List Happening) : List Happening := hs.filter (·.access.isStep)

def DirectoryError.isCompensation : DirectoryError → Bool
  | compensation _ _ _ => true
  | _ => false

namespace Directory

/-- How far the steps got, in their order, and the error of the one that failed. -/
inductive Steps (tenant : String) : List Happening → Option DirectoryError → Prop where
  | uncreated {secret : String} {e : ProvisionError} :
      Steps tenant [⟨.create tenant secret, .error e⟩] (some (.provision e))
  | unstored (entry : Entry) {e : DirectoryError} : entry.tenant = tenant →
      Steps tenant [⟨.create tenant entry.secret, .ok entry.address⟩, ⟨.put entry, .error e⟩]
        (some e)
  | unopened (entry : Entry) {e : ProvisionError} : entry.tenant = tenant →
      Steps tenant [⟨.create tenant entry.secret, .ok entry.address⟩, ⟨.put entry, .ok ()⟩,
        ⟨.reach tenant entry.address, .error e⟩] (some (.provision e))
  | all (entry : Entry) : entry.tenant = tenant →
      Steps tenant [⟨.create tenant entry.secret, .ok entry.address⟩, ⟨.put entry, .ok ()⟩,
        ⟨.reach tenant entry.address, .ok ()⟩] none

/-- The instance runs, was opened once its entry was stored, and is known by this entry. -/
structure Established (tenant : String) (entry : Entry) (hs : List Happening) (y : Scene) :
    Prop where
  stored : y.estate.stored tenant = some entry
  cached : y.cache.entries.find? tenant = some entry
  running : y.estate.running tenant = true
  steps : stepsOf hs = [⟨.create tenant entry.secret, .ok entry.address⟩, ⟨.put entry, .ok ()⟩,
    ⟨.reach tenant entry.address, .ok ()⟩]

/-- A step failed, its error is the one told, and nothing is left of what was done. -/
structure Withdrawn (tenant : String) (failure : DirectoryError) (hs : List Happening)
    (y : Scene) : Prop where
  steps : Steps tenant (stepsOf hs) (some failure)
  unstored : y.estate.stored tenant = none
  uncached : y.cache.entries.find? tenant = none
  stopped : ∀ secret address, ⟨.create tenant secret, .ok address⟩ ∈ hs →
    y.estate.running tenant = false

/-- A step failed and so did taking back what was done. Both errors are told, and why there may
be an instance left. -/
structure Stranded (tenant whose failure cause : String) (hs : List Happening) (y : Scene) :
    Prop where
  own : whose = tenant
  failure : ∃ e, Steps tenant (stepsOf hs) (some e) ∧ failure = e.message
  cause : Hitch tenant hs cause
  left : y.estate.running tenant = true → (∃ e, ⟨.destroy tenant, .error e⟩ ∈ hs) ∨
    ∃ e entry, ⟨.delete tenant, .error e⟩ ∈ hs ∧ ⟨.put entry, .ok ()⟩ ∈ hs ∧
      y.estate.stored tenant = some entry

structure ProvisionOutcome (tenant : String) (x : Scene) (result : Except DirectoryError Entry)
    (hs : List Happening) (y : Scene) : Prop where
  ok : ∀ entry, result = .ok entry → Established tenant entry hs y
  error : ∀ e, result = .error e → e.isCompensation = false → Withdrawn tenant e hs y
  compensation : ∀ whose failure cause, result = .error (.compensation whose failure cause) →
    Stranded tenant whose failure cause hs y ∧
      (DirectoryError.compensation whose failure cause).isRetriable = false
  others : ∀ other, other ≠ tenant → x.estate.Agree other y.estate ∧
    y.cache.entries.find? other = x.cache.entries.find? other

variable {tenant : String} {x y : Scene} {hs : List Happening}

theorem stepsOf_counted (hs : List Happening) (measure : Measure) :
    stepsOf (hs ++ [⟨.count measure, ()⟩]) = stepsOf hs := by
  simp [stepsOf, List.filter_append, Access.isStep]

namespace Registration

theorem established {entry : Entry} (registration : Registration tenant x (.ok entry) hs y) :
    Established tenant entry hs y := by
  cases registration with
  | unstored _ _ _ undoing => cases undoing
  | unopened _ _ undoing => cases undoing
  | registered _ own =>
      subst own
      refine ⟨by simp, ?_, by simp, rfl⟩
      rw [Cache.find?_insert]
      simp

theorem withdrawn {e : DirectoryError} (unstored : x.estate.stored tenant = none)
    (uncached : x.cache.entries.find? tenant = none)
    (registration : Registration tenant x (.error e) hs y) (plain : e.isCompensation = false) :
    Withdrawn tenant e hs y := by
  cases registration with
  | refused =>
      refine ⟨.uncreated, unstored, uncached, ?_⟩
      intro secret address member
      simp at member
  | unstored entry own _ undoing =>
      cases undoing with
      | undone =>
          subst own
          exact ⟨.unstored entry rfl, unstored, uncached, fun _ _ _ => by simp⟩
      | stuck _ => cases plain
  | undeleted _ _ => cases plain
  | unopened entry own undoing =>
      cases undoing with
      | undone =>
          subst own
          exact ⟨.unopened entry rfl, by simp, uncached, fun _ _ _ => by simp⟩
      | stuck _ => cases plain

theorem stranded {whose failure cause : String}
    (registration : Registration tenant x (.error (.compensation whose failure cause)) hs y) :
    Stranded tenant whose failure cause hs y := by
  generalize same : (Except.error (.compensation whose failure cause) :
    Except DirectoryError Entry) = result at registration
  cases registration with
  | refused => cases same
  | unstored entry own storage undoing =>
      cases undoing with
      | undone =>
          cases same
          cases storage
      | @stuck e' _ =>
          cases same
          subst own
          refine ⟨rfl, ⟨_, .unstored entry rfl, rfl⟩, .destroy (by simp), fun _ => Or.inl ⟨e', ?_⟩⟩
          simp
  | @undeleted entry e cleanup own =>
      cases same
      subst own
      refine ⟨rfl, ⟨_, .unopened entry rfl, rfl⟩, .delete (by simp), fun _ => Or.inr ?_⟩
      exact ⟨cleanup, entry, by simp, by simp, by simp⟩
  | unopened entry own undoing =>
      cases undoing with
      | undone => cases same
      | @stuck e' _ =>
          cases same
          subst own
          refine ⟨rfl, ⟨_, .unopened entry rfl, rfl⟩, .destroy (by simp), fun _ => Or.inl ⟨e', ?_⟩⟩
          simp
  | registered _ _ => cases same

theorem cached_other {other : String} {result : Except DirectoryError Entry}
    (registration : Registration tenant x result hs y) (different : other ≠ tenant) :
    y.cache.entries.find? other = x.cache.entries.find? other := by
  cases registration with
  | refused => rfl
  | unstored entry own _ undoing => cases undoing <;> rfl
  | undeleted entry own => rfl
  | unopened entry own undoing => cases undoing <;> rfl
  | registered entry own =>
      rw [Cache.find?_insert, own]
      simp [different]

theorem outcome {result : Except DirectoryError Entry}
    (unstored : x.estate.stored tenant = none) (uncached : x.cache.entries.find? tenant = none)
    (spared : ∀ other, other ≠ tenant → x.estate.Agree other y.estate)
    (registration : Registration tenant x result hs y) :
    ProvisionOutcome tenant x result hs y where
  ok _ same := by
    subst same
    exact registration.established
  error _ same plain := by
    subst same
    exact registration.withdrawn unstored uncached plain
  compensation _ _ _ same := by
    subst same
    exact ⟨registration.stranded, rfl⟩
  others other different := ⟨spared other different, registration.cached_other different⟩

end Registration

theorem ProvisionOutcome.counted {result : Except DirectoryError Entry}
    (outcome : ProvisionOutcome tenant x result hs y) (measure : Measure) :
    ProvisionOutcome tenant x result (hs ++ [⟨.count measure, ()⟩]) y where
  ok entry same := by
    have established := outcome.ok entry same
    refine ⟨established.stored, established.cached, established.running, ?_⟩
    rw [stepsOf_counted]
    exact established.steps
  error e same plain := by
    have withdrawn := outcome.error e same plain
    refine ⟨?_, withdrawn.unstored, withdrawn.uncached, ?_⟩
    · rw [stepsOf_counted]
      exact withdrawn.steps
    · intro secret address member
      exact withdrawn.stopped secret address (by simpa using member)
  compensation whose failure cause same := by
    obtain ⟨stranded, final⟩ := outcome.compensation whose failure cause same
    refine ⟨⟨stranded.own, ?_, stranded.cause.mono (List.subset_append_left _ _), ?_⟩, final⟩
    · rw [stepsOf_counted]
      exact stranded.failure
    · intro running
      rcases stranded.left running with ⟨e, member⟩ | ⟨e, entry, undeleted, stored, kept⟩
      · exact Or.inl ⟨e, List.mem_append_left _ member⟩
      · exact Or.inr ⟨e, entry, List.mem_append_left _ undeleted,
          List.mem_append_left _ stored, kept⟩
  others := outcome.others

section
variable {σ : Type} {s : Surroundings σ} {view : σ → Estate}
  (d : Dependable s view (·.isOfStore)) (site : Site σ)

include d

theorem register_outcome (unstored : (view site.outside).stored tenant = none)
    (uncached : site.cache.entries.find? tenant = none) :
    Ensures s (register tenant) site fun result hs after =>
      ProvisionOutcome tenant (site.scene view) result hs (after.scene view) := by
  refine Registration.outcome unstored uncached ?_ (register_registers d tenant site)
  intro other different
  exact d.agree_of_spares (register_spares (Ne.symm different)) site

/-- Making an instance for a tenant of whom nothing is known ends in one of three ways, also
when nobody waits for it any more: it is there, or nothing of it is left, or the error says
what is. Nothing is done to other tenants. -/
theorem provision_outcomes (unstored : (view site.outside).stored tenant = none)
    (uncached : site.cache.entries.find? tenant = none)
    (work : Program (Except DirectoryError Entry))
    (provisions : work = provision tenant ∨ work = register tenant) :
    Ensures s work site fun result hs after =>
      ProvisionOutcome tenant (site.scene view) result hs (after.scene view) := by
  have outcome := register_outcome d site unstored uncached
  rcases provisions with rfl | rfl
  · refine (counted_ensures site outcome).mono ?_
    rintro result hs after ⟨done, rfl, ended⟩
    exact ended.counted _
  · exact outcome

end

def closed : FairWorld :=
  -- A world in which no instance can be opened, nor destroyed once it is made.
  FairWorld.facing
    { reach := .standing (some (.api 500 "down")), destroy := .standing (some (.api 503 "busy")) }
    { get := by simp [Script.Holds]
      put := by simp [Script.Holds]
      delete := by simp [Script.Holds]
      destroy := by simp [Script.Holds, ProvisionError.isNotFound] }

theorem provision_outcomes_when_closed :
    let site : Site FairWorld := { cache := {}, outside := closed }
    let ended := run FairWorld.accepting (provision "acme") site
    let failure := DirectoryError.message (.provision (.api 500 "down"))
    let cause := ProvisionError.message (.api 503 "busy")
    ended.1 = .error (.compensation "acme" failure cause) ∧
    Stranded "acme" "acme" failure cause (calls FairWorld.accepting (provision "acme") site)
      (ended.2.scene FairWorld.estate) ∧
    (FairWorld.estate ended.2.outside).running "acme" = true := by
  intro site ended failure cause
  have stuck : ended.1 = .error (.compensation "acme" failure cause) := rfl
  have outcome := provision_outcomes FairWorld.accepting_dependable site
    (show (FairWorld.estate site.outside).stored "acme" = none from rfl) rfl (provision "acme") (Or.inl rfl)
  exact ⟨stuck, (outcome.compensation _ _ _ stuck).1, by decide +kernel⟩

end Directory
end TenantRelay
