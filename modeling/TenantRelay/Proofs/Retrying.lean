import TenantRelay.Proofs.FairWorld
import TenantRelay.Proofs.Hindsight
import TenantRelay.Proofs.Registration

/-!
Taking an instance down may fail at any of its steps, and is tried again until it does not.
While the instance runs nothing is forgotten of it, so no failure leaves it without a record;
once it is gone, an attempt that meets no failure finishes what the earlier ones began.
-/

namespace TenantRelay

open Site Program

def Access.Forgets (tenant : String) : Access → Prop
  | delete own => own = tenant
  | forget own => own = tenant
  | cachedCount => True
  | count _ => True
  | _ => False

def Access.TakesDown (tenant : String) (access : Access) : Prop :=
  access = .destroy tenant ∨ access.Forgets tenant

/-- A failure of the store or of the control plane that stops whoever meets it. To find no
instance is none where one is to be destroyed. -/
def Happening.hinders : Happening → Bool
  | ⟨.find _, .error _⟩ => true
  | ⟨.put _, .error _⟩ => true
  | ⟨.delete _, .error _⟩ => true
  | ⟨.create _ _, .error _⟩ => true
  | ⟨.reach _ _, .error _⟩ => true
  | ⟨.destroy _, .error e⟩ => !e.isNotFound
  | _ => false

variable {tenant other : String}

/-! What such an access does to other tenants, and to an instance that does not run. -/

theorem Access.TakesDown.spares {access : Access} (down : access.TakesDown tenant)
    (different : other ≠ tenant) : access.concerns other = false := by
  rcases down with rfl | forgets
  · exact beq_eq_false_iff_ne.mpr (Ne.symm different)
  · cases access with
    | delete own =>
        cases forgets
        exact beq_eq_false_iff_ne.mpr (Ne.symm different)
    | put entry => cases forgets
    | create own secret => cases forgets
    | destroy own => cases forgets
    | _ => rfl

theorem Access.TakesDown.idle_effect {h : Happening} {x : Estate}
    (down : h.access.TakesDown tenant) (idle : x.running tenant = false) :
    (h.effect x).running tenant = false := by
  by_cases changed : (h.effect x).running tenant = x.running tenant
  · rw [changed, idle]
  · rcases Happening.running_changed changed with ⟨secret, address, rfl⟩ | ⟨_, stopped⟩
    · rcases down with other | forgets
      · cases other
      · cases forgets
    · exact stopped

theorem Access.TakesDown.cached {σ : Type} {s : Surroundings σ} {access : Access}
    (down : access.TakesDown tenant) (different : other ≠ tenant) (site : Site σ) :
    (site.answer s access).2.cache.entries.find? other = site.cache.entries.find? other := by
  rcases down with rfl | forgets
  · rfl
  · cases access with
    | forget own =>
        cases forgets
        simp [answer, Cache.remove, different]
    | lookup own => cases forgets
    | fill entry generation => cases forgets
    | keep entry => cases forgets
    | _ => rfl

namespace Directory

theorem forget_forgets : (forget tenant).Only (Access.Forgets tenant) := by
  unfold forget
  refine only_call rfl fun deleted => ?_
  cases deleted with
  | error e => trivial
  | ok had =>
      refine only_call rfl fun _ => ?_
      refine only_call trivial fun size => ?_
      exact only_call trivial fun _ => trivial

theorem unregister_takesDown : (unregister tenant).Only (Access.TakesDown tenant) := by
  have forgetting : (forget tenant).Only (Access.TakesDown tenant) :=
    Only.mono forget_forgets fun _ => Or.inr
  unfold unregister
  refine only_call (Or.inl rfl) fun gone => ?_
  cases gone with
  | ok _ => exact forgetting
  | error e =>
      cases known : e.isNotFound with
      | true =>
          simp only [known, ↓reduceIte]
          exact forgetting
      | false =>
          simp only [known, Bool.false_eq_true, ↓reduceIte]
          trivial

theorem deprovision_takesDown : (deprovision tenant).Only (Access.TakesDown tenant) := by
  unfold deprovision counted
  apply only_bind unregister_takesDown
  intro result
  exact only_call (Or.inr trivial) fun _ => trivial

namespace Unregistration

variable {x y : Scene} {hs : List Happening} {result : Except DirectoryError Unit}

theorem unchanged_of_running (unregistration : Unregistration tenant x result hs y)
    (running : y.estate.running tenant = true) : y = x := by
  cases unregistration with
  | standing _ => rfl
  | undeleted => simp at running
  | unregistered => simp at running

theorem done_of_unhindered (unregistration : Unregistration tenant x result hs y)
    (unhindered : ∀ h ∈ hs, h.hinders = false) : result = .ok () := by
  cases unregistration with
  | @standing e known =>
      have hinders := unhindered ⟨.destroy tenant, .error e⟩ List.mem_cons_self
      simp [Happening.hinders, known] at hinders
  | @undeleted gone e =>
      have hinders := unhindered ⟨.delete tenant, .error e⟩ (by simp)
      cases hinders
  | unregistered => rfl

end Unregistration

/-- If the instance could not be destroyed, this is the result, and nothing was done. -/
def Standing (tenant : String) (x : Scene) (result : Except DirectoryError Unit)
    (hs : List Happening) (y : Scene) : Prop :=
  ∀ e, ⟨.destroy tenant, .error e⟩ ∈ hs → e.isNotFound = false →
    result = .error (.provision e) ∧ y = x

section
variable {σ : Type} {s : Surroundings σ} {view : σ → Estate} {failing : DirectoryError → Prop}
  (d : Dependable s view failing) (site : Site σ)

theorem forget_destroys_nothing {answer : Except ProvisionError Unit} :
    ⟨.destroy tenant, answer⟩ ∉ calls s (forget tenant) site := by
  intro member
  exact calls_only s forget_forgets site _ member

include d

theorem unregister_stands :
    Ensures s (unregister tenant) site fun result hs after =>
      Standing tenant (site.scene view) result hs (after.scene view) := by
  unfold unregister
  apply d.ensures_destroy
  case failed =>
    intro e after known same
    simp only [known, Bool.false_eq_true, ↓reduceIte]
    apply ensures_pure
    intro e' member _
    cases List.mem_singleton.mp member
    exact ⟨rfl, same⟩
  case missing =>
    intro e after known _ _
    simp only [known, ↓reduceIte]
    intro e' member standing
    rcases List.mem_cons.mp member with same | later
    · cases same
      rw [known] at standing
      cases standing
    · exact absurd later (forget_destroys_nothing after)
  case stopped =>
    intro after _ e' member _
    rcases List.mem_cons.mp member with same | later
    · cases same
    · exact absurd later (forget_destroys_nothing after)

theorem deprovision_stands :
    Ensures s (deprovision tenant) site fun result hs after =>
      Standing tenant (site.scene view) result hs (after.scene view) := by
  refine (counted_ensures site (unregister_stands d site)).mono ?_
  rintro result hs after ⟨done, rfl, standing⟩ e member known
  rcases List.mem_append.mp member with before | last
  · exact standing e before known
  · cases List.mem_singleton.mp last

/-! What holds all the while an attempt runs. -/

theorem destroy_stands_or_stops (tenant : String) :
    let (answer, after) := site.answer s (.destroy tenant)
    (∃ e, answer = .error e ∧ e.isNotFound = false ∧ after.scene view = site.scene view) ∨
      (view after.outside).running tenant = false := by
  refine (d.destroy tenant site.outside).elim (motive := fun answer w =>
    (∃ e, answer = .error e ∧ e.isNotFound = false ∧
      Scene.mk site.cache (view w) = site.scene view) ∨ (view w).running tenant = false) ?_ ?_
  · intro e w absent same
    cases known : e.isNotFound with
    | false => exact Or.inl ⟨e, rfl, known, congrArg (Scene.mk site.cache) same⟩
    | true =>
        right
        rw [same]
        exact absent known
  · intro _ w changed
    right
    simp [changed]

theorem idle_throughout {α : Type} {p : Program α} (only : p.Only (Access.TakesDown tenant))
    (idle : (view site.outside).running tenant = false) :
    ∀ m ∈ trace s p site, (view m.after.outside).running tenant = false := by
  apply trace_keeps s (fun site => (view site.outside).running tenant = false) only
  case here => exact idle
  case keeps =>
    intro access site down idle
    rw [d.answer_effect]
    exact Access.TakesDown.idle_effect (h := ⟨access, _⟩) down idle

theorem unregister_guards : ∀ m ∈ trace s (unregister tenant) site,
    (view m.after.outside).running tenant = true → m.after.scene view = site.scene view := by
  intro m member running
  have only : (unregister tenant).Only (Access.TakesDown tenant) := unregister_takesDown
  unfold unregister at member only
  obtain ⟨_, only⟩ := only
  rcases destroy_stands_or_stops d site tenant with ⟨e, refused, known, same⟩ | idle
  · -- The attempt ends with the refusal.
    rcases List.mem_cons.mp member with rfl | later
    · exact same
    · simp only [refused, Program.bind, known, Bool.false_eq_true, ↓reduceIte] at later
      cases later
  · rcases List.mem_cons.mp member with rfl | later
    · rw [idle] at running
      cases running
    · rw [idle_throughout d _ (only _) idle m later] at running
      cases running

theorem deprovision_guards : ∀ m ∈ trace s (deprovision tenant) site,
    (view m.after.outside).running tenant = true → m.after.scene view = site.scene view := by
  intro m member running
  unfold deprovision counted at member
  rw [trace_bind] at member
  rcases List.mem_append.mp member with before | counting
  · exact unregister_guards d site m before running
  · have unregistration := unregister_unregisters d tenant site
    rcases List.mem_cons.mp counting with rfl | none
    · exact unregistration.unchanged_of_running running
    · cases none

theorem deprovision_spares_throughout (different : other ≠ tenant) :
    ∀ m ∈ trace s (deprovision tenant) site,
      (view site.outside).Agree other (view m.after.outside) ∧
        m.after.cache.entries.find? other = site.cache.entries.find? other := by
  apply trace_keeps s (fun after => (view site.outside).Agree other (view after.outside) ∧
    after.cache.entries.find? other = site.cache.entries.find? other) deprovision_takesDown
  case here => exact ⟨.refl other _, rfl⟩
  case keeps =>
    rintro access after down ⟨same, cached⟩
    constructor
    · rw [d.answer_effect]
      exact same.trans
        (Happening.agree_effect (h := ⟨access, _⟩) (down.spares different) (view after.outside))
    · rw [down.cached different, cached]

end

/-- While the instance runs all is as it was, and nothing is done to other tenants. -/
structure Guarded (tenant : String) (x y : Scene) : Prop where
  kept : y.estate.running tenant = true → y = x
  spared : ∀ other, other ≠ tenant → x.estate.Agree other y.estate ∧
    y.cache.entries.find? other = x.cache.entries.find? other

theorem Guarded.refl (tenant : String) (x : Scene) : Guarded tenant x x :=
  ⟨fun _ => rfl, fun other _ => ⟨.refl other _, rfl⟩⟩

theorem Guarded.trans {x y z : Scene} (first : Guarded tenant x y) (second : Guarded tenant y z) :
    Guarded tenant x z where
  kept running := by
    have same := second.kept running
    subst same
    exact first.kept running
  spared other different := by
    obtain ⟨agree, cached⟩ := first.spared other different
    obtain ⟨agree', cached'⟩ := second.spared other different
    exact ⟨agree.trans agree', cached'.trans cached⟩

/-- Attempts to take a tenant's instance down, one after another, with what happened in them.
In between time goes by, and anything else that leaves alone what there is outside. -/
inductive Attempts {σ : Type} (s : Surroundings σ) (view : σ → Estate) (tenant : String)
    (start : Site σ) : List (Moment σ) → Site σ → Prop where
  | start : Attempts s view tenant start [] start
  | attempted {ms : List (Moment σ)} {site : Site σ} : Attempts s view tenant start ms site →
      Attempts s view tenant start (ms ++ trace s (deprovision tenant) site)
        (run s (deprovision tenant) site).2
  | waited {ms : List (Moment σ)} {site : Site σ} {w : σ} : view w = view site.outside →
      Attempts s view tenant start ms site →
      Attempts s view tenant start ms { site with outside := w }

namespace Attempts

variable {σ : Type} {s : Surroundings σ} {view : σ → Estate} {failing : DirectoryError → Prop}
  {start site : Site σ} {ms : List (Moment σ)}

theorem guarded_of_attempt (d : Dependable s view failing) (tenant : String) (site : Site σ) :
    ∀ m ∈ trace s (deprovision tenant) site,
      Guarded tenant (site.scene view) (m.after.scene view) := by
  intro m member
  refine ⟨deprovision_guards d site m member, ?_⟩
  intro other different
  exact deprovision_spares_throughout d site different m member

theorem guarded (d : Dependable s view failing) (attempts : Attempts s view tenant start ms site) :
    (∀ m ∈ ms, Guarded tenant (start.scene view) (m.after.scene view)) ∧
      Guarded tenant (start.scene view) (site.scene view) := by
  induction attempts with
  | start =>
      refine ⟨?_, .refl tenant _⟩
      intro m member
      cases member
  | @attempted ms site _ ih =>
      obtain ⟨earlier, here⟩ := ih
      have during := guarded_of_attempt d tenant site
      constructor
      · intro m member
        rcases List.mem_append.mp member with before | now
        · exact earlier m before
        · exact here.trans (during m now)
      · rcases run_ends s (deprovision tenant) site with same | ⟨m, member, same⟩
        · rw [same]
          exact here
        · rw [same]
          exact here.trans (during m member)
  | @waited ms site w same _ ih =>
      refine ⟨ih.1, ?_⟩
      have still : Site.scene view { site with outside := w } = site.scene view :=
        congrArg (Scene.mk site.cache) same
      rw [still]
      exact ih.2

/-- Attempts to take an instance down never forget anything of it while it runs, and leave
other tenants alone. The next one changes nothing if the instance cannot be destroyed, and if
it meets no failure nothing is left, whatever the ones before it left behind. -/
theorem deprovision_converges (d : Dependable s view failing)
    (attempts : Attempts s view tenant start ms site) :
    let ended := run s (deprovision tenant) site
    let done := calls s (deprovision tenant) site
    (∀ m ∈ ms ++ trace s (deprovision tenant) site,
      Guarded tenant (start.scene view) (m.after.scene view)) ∧
    Standing tenant (site.scene view) ended.1 done (ended.2.scene view) ∧
    ((∀ h ∈ done, h.hinders = false) → ended.1 = .ok () ∧
      (view ended.2.outside).stored tenant = none ∧
      ended.2.cache.entries.find? tenant = none ∧
      (view ended.2.outside).running tenant = false) := by
  intro ended done
  refine ⟨(attempts.attempted.guarded d).1, deprovision_stands d site, ?_⟩
  intro unhindered
  obtain ⟨hs, same, unregistration⟩ := deprovision_unregisters d tenant site
  have finished : ended.1 = .ok () := by
    apply unregistration.done_of_unhindered
    intro h member
    apply unhindered h
    show h ∈ calls s (deprovision tenant) site
    rw [same]
    exact List.mem_append_left _ member
  have gone : Unregistration tenant (site.scene view) (.ok ()) hs (ended.2.scene view) :=
    finished ▸ unregistration
  exact ⟨finished, gone.gone⟩

end Attempts

def stubborn : FairWorld :=
  -- A world that hosts one tenant, and in which first the instance is busy and then its entry
  -- cannot be deleted.
  ⟨{ (FairWorld.hosting FairWorld.former).1 with
     faults :=
      { destroy := .queued [some (.api 503 "busy")], delete := .queued [some (.io "read-only")] } },
   { get := by simp [Script.Holds]
     put := by simp [Script.Holds]
     delete := by simp [Script.Holds, DirectoryError.isOfStore]
     destroy := by simp [Script.Holds, ProvisionError.isNotFound] }⟩

/-- The first attempt leaves all as it is, the second one the entry, and the third one
nothing. -/
theorem deprovision_converges_when_stubborn :
    let attempt := deprovision "acme"
    let start : Site FairWorld :=
      { cache := ({} : Cache).insert 0 FairWorld.former, outside := stubborn }
    let first := run FairWorld.accepting attempt start
    let second := run FairWorld.accepting attempt first.2
    let third := run FairWorld.accepting attempt second.2
    first.1 = .error (.provision (.api 503 "busy")) ∧
    first.2.scene FairWorld.estate = start.scene FairWorld.estate ∧
    second.1 = .error (.io "read-only") ∧
    (FairWorld.estate second.2.outside).stored "acme" = some FairWorld.former ∧
    third.1 = .ok () ∧ (FairWorld.estate third.2.outside).stored "acme" = none ∧
    third.2.cache.entries.find? "acme" = none := by
  intro attempt start first second third
  have d := FairWorld.accepting_dependable
  have none : Attempts FairWorld.accepting FairWorld.estate "acme" start [] start := .start
  have refused : ⟨.destroy "acme", .error (.api 503 "busy")⟩ ∈
      calls FairWorld.accepting attempt start := List.mem_cons_self
  obtain ⟨_, stands, _⟩ := none.deprovision_converges d
  obtain ⟨stopped, same⟩ := stands _ refused rfl
  have full : second.1 = .error (.io "read-only") := rfl
  have kept : (FairWorld.estate second.2.outside).stored "acme" = some FairWorld.former := by
    decide +kernel
  have smooth : (calls FairWorld.accepting attempt second.2).all (!·.hinders) = true := by
    decide +kernel
  have unhindered : ∀ h ∈ calls FairWorld.accepting attempt second.2, h.hinders = false := by
    simpa using smooth
  have twice : Attempts FairWorld.accepting FairWorld.estate "acme" start _ second.2 :=
    none.attempted.attempted
  -- What the second attempt led to does not matter any more.
  clear_value second
  obtain ⟨_, _, finished⟩ := twice.deprovision_converges d
  obtain ⟨ok, unstored, uncached, _⟩ := finished unhindered
  exact ⟨stopped, same, full, kept, ok, unstored, uncached⟩

end Directory
end TenantRelay
