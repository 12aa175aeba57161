import TenantRelay.Multiplex.Multiplexer
import TenantRelay.Proofs.Estate

/-!
What each happening does to the estate, and to whom. An activity that does not concern
a tenant leaves what there is of the tenant alone, all the while it runs.
-/

namespace TenantRelay

def Access.concerns (tenant : String) : Access → Bool
  | put entry => entry.tenant == tenant
  | delete other => other == tenant
  | create other _ => other == tenant
  | destroy other => other == tenant
  | _ => false

def Happening.effect : Happening → Estate → Estate
  | ⟨.put entry, .ok _⟩, x => x.put entry
  | ⟨.delete tenant, .ok _⟩, x => x.delete tenant
  | ⟨.create tenant _, .ok _⟩, x => x.start tenant
  | ⟨.destroy tenant, .ok _⟩, x => x.stop tenant
  | _, x => x

def Happening.stops (tenant : String) : Happening → Bool
  | ⟨.destroy other, .ok _⟩ => other == tenant
  | _ => false

def Happening.issue? (tenant : String) : Happening → Option (String × String)
  | ⟨.create other secret, .ok address⟩ =>
      if other = tenant then some (address, secret) else none
  | _ => none

/-! What an access to another tenant, or to none, does to a tenant: nothing. -/

theorem Access.ne_of_spared {own tenant : String} (spared : (own == tenant) = false) :
    tenant ≠ own :=
  Ne.symm (beq_eq_false_iff_ne.mp spared)

theorem Happening.agree_effect {tenant : String} {h : Happening}
    (spared : h.access.concerns tenant = false) (x : Estate) : x.Agree tenant (h.effect x) := by
  obtain ⟨access, answer⟩ := h
  cases access with
  | put entry =>
      have other := Access.ne_of_spared spared
      cases answer <;> simp [effect, Estate.Agree, other]
  | delete own =>
      have other := Access.ne_of_spared spared
      cases answer <;> simp [effect, Estate.Agree, other]
  | create own secret =>
      have other := Access.ne_of_spared spared
      cases answer <;> simp [effect, Estate.Agree, other]
  | destroy own =>
      have other := Access.ne_of_spared spared
      cases answer <;> simp [effect, Estate.Agree, other]
  | _ => exact .refl tenant x

theorem Happening.issue?_of_spared {tenant : String} {h : Happening}
    (spared : h.access.concerns tenant = false) : h.issue? tenant = none := by
  obtain ⟨access, answer⟩ := h
  cases access with
  | create own secret =>
      have other := (Access.ne_of_spared spared).symm
      cases answer <;> simp [issue?, other]
  | _ => rfl

theorem Happening.stops_of_spared {tenant : String} {h : Happening}
    (spared : h.access.concerns tenant = false) : h.stops tenant = false := by
  obtain ⟨access, answer⟩ := h
  cases access with
  | destroy own =>
      cases answer with
      | error e => rfl
      | ok _ => exact spared
  | _ => rfl

theorem Happening.running_effect {tenant : String} {h : Happening} {x : Estate}
    (lasting : h.stops tenant = false) (running : x.running tenant = true) :
    (h.effect x).running tenant = true := by
  obtain ⟨access, answer⟩ := h
  cases access with
  | put entry => cases answer <;> exact running
  | delete own => cases answer <;> exact running
  | create own secret => cases answer <;> simp [effect, running]
  | destroy own =>
      cases answer with
      | error e => exact running
      | ok _ =>
          have other := Access.ne_of_spared lasting
          simp [effect, other, running]
  | _ => exact running

theorem Dependable.answer_effect {σ : Type} {s : Surroundings σ} {view : σ → Estate}
    {failing : DirectoryError → Prop} (d : Dependable s view failing) (access : Access)
    (site : Site σ) :
    view (site.answer s access).2.outside =
      Happening.effect ⟨access, (site.answer s access).1⟩ (view site.outside) := by
  cases access with
  | find tenant =>
      exact (d.find tenant site.outside).elim (motive := fun _ w => view w = view site.outside)
        (fun _ _ _ same => same) (fun _ _ read => read.2)
  | put entry =>
      exact (d.put entry site.outside).elim (motive := fun answer w =>
          view w = Happening.effect ⟨.put entry, answer⟩ (view site.outside))
        (fun _ _ _ same => same) (fun _ _ changed => changed)
  | delete tenant =>
      exact (d.delete tenant site.outside).elim (motive := fun answer w =>
          view w = Happening.effect ⟨.delete tenant, answer⟩ (view site.outside))
        (fun _ _ _ same => same) (fun _ _ changed => changed)
  | create tenant secret =>
      exact (d.create tenant secret site.outside).elim (motive := fun answer w =>
          view w = Happening.effect ⟨.create tenant secret, answer⟩ (view site.outside))
        (fun _ _ _ same => same) (fun _ _ changed => changed)
  | reach tenant address =>
      exact (d.reach tenant address site.outside).elim
        (motive := fun _ w => view w = view site.outside)
        (fun _ _ _ same => same) (fun _ _ same => same)
  | destroy tenant =>
      exact (d.destroy tenant site.outside).elim (motive := fun answer w =>
          view w = Happening.effect ⟨.destroy tenant, answer⟩ (view site.outside))
        (fun _ _ _ same => same) (fun _ _ changed => changed)
  | secret => exact d.secret site.outside
  | post parcel => exact d.post parcel site.outside
  | outbound tenant message => exact d.outbound tenant message site.outside
  | inbound tenant message response => exact d.inbound tenant message response site.outside
  | _ => rfl

namespace Program

variable {tenant : String}

/-- An activity that, whatever it is answered, does nothing to a tenant. -/
def Spares {α : Type} (tenant : String) (p : Program α) : Prop :=
  p.Only fun access => access.concerns tenant = false

theorem spares_bind {α β : Type} {p : Program α} {f : α → Program β}
    (first : p.Spares tenant) (rest : ∀ a, (f a).Spares tenant) : (p >>= f).Spares tenant :=
  only_bind first rest

theorem spares_call {β : Type} {access : Access} {f : access.Answer → Program β}
    (fit : access.concerns tenant = false) (rest : ∀ answer, (f answer).Spares tenant) :
    (call access >>= f).Spares tenant :=
  ⟨fit, rest⟩

end Program

namespace Dependable

open Site

variable {σ α : Type} {s : Surroundings σ} {view : σ → Estate} {failing : DirectoryError → Prop}
  (d : Dependable s view failing)
  {tenant : String} {p : Program α}

include d

theorem agree_of_spares (spared : p.Spares tenant) (site : Site σ) :
    (view site.outside).Agree tenant (view (run s p site).2.outside) := by
  -- Each access is one effect, and none of them is on this tenant.
  induction p generalizing site with
  | done a => exact .refl tenant _
  | step access next ih =>
      have now := Happening.agree_effect (h := ⟨access, (site.answer s access).1⟩) spared.1
        (view site.outside)
      rw [← d.answer_effect access site] at now
      exact now.trans (ih _ (spared.2 _) _)

theorem running_throughout (site : Site σ) (running : (view site.outside).running tenant = true)
    (lasting : ∀ h ∈ calls s p site, h.stops tenant = false) :
    ∀ m ∈ trace s p site, (view m.after.outside).running tenant = true := by
  induction p generalizing site with
  | done a =>
      intro m member
      cases member
  | step access next ih =>
      have head : Happening.stops tenant ⟨access, (site.answer s access).1⟩ = false :=
        lasting _ List.mem_cons_self
      have still : (view (site.answer s access).2.outside).running tenant = true := by
        rw [d.answer_effect access site]
        exact Happening.running_effect head running
      intro m member
      rcases List.mem_cons.mp member with same | later
      · subst same
        exact still
      · exact ih _ _ still (fun h later => lasting h (List.mem_cons_of_mem _ later)) m later

end Dependable

/-! Which activities concern whom. -/

open Program

variable {tenant : String}

namespace Directory

theorem readStore_spares (own : String) : (readStore own).Spares tenant := by
  unfold readStore
  refine spares_call rfl fun generation => ?_
  refine spares_call rfl fun found => ?_
  cases found with
  | error e => trivial
  | ok found =>
      cases found with
      | none => exact spares_call rfl fun _ => trivial
      | some entry =>
          refine spares_call rfl fun _ => ?_
          refine spares_call rfl fun kept => ?_
          cases kept with
          | false => trivial
          | true =>
              refine spares_call rfl fun size => ?_
              refine spares_call rfl fun _ => ?_
              trivial

theorem resolve_spares (own : String) : (resolve own).Spares tenant := by
  unfold resolve
  refine spares_call rfl fun found => ?_
  cases found with
  | hit entry => exact spares_call rfl fun _ => trivial
  | miss => exact readStore_spares own
  | expired => exact spares_call rfl fun _ => readStore_spares own

variable {own : String} (other : own ≠ tenant)
include other

theorem spares_others {access : Access} (same : access.concerns tenant = (own == tenant)) :
    access.concerns tenant = false := by
  rw [same]
  exact beq_eq_false_iff_ne.mpr other

theorem undoCreate_spares (failure : DirectoryError) :
    (undoCreate own failure).Spares tenant := by
  unfold undoCreate
  refine spares_call (spares_others other rfl) fun gone => ?_
  cases gone with
  | ok _ => trivial
  | error e =>
      cases known : e.isNotFound with
      | true =>
          simp only [known, ↓reduceIte]
          trivial
      | false =>
          simp only [known, Bool.false_eq_true, ↓reduceIte]
          trivial

theorem register_spares : (register own).Spares tenant := by
  unfold register
  refine spares_call rfl fun secret => ?_
  refine spares_call (spares_others other rfl) fun created => ?_
  cases created with
  | error e => trivial
  | ok address =>
      refine spares_call rfl fun now => ?_
      refine spares_call (spares_others other rfl) fun stored => ?_
      cases stored with
      | error e => exact undoCreate_spares other e
      | ok _ =>
          refine spares_call rfl fun reached => ?_
          cases reached with
          | error e =>
              -- The ways back concern the tenant just as the way there does.
              refine spares_call (spares_others other rfl) fun deleted => ?_
              cases deleted with
              | error cleanup => trivial
              | ok _ => exact undoCreate_spares other _
          | ok _ =>
              refine spares_call rfl fun _ => ?_
              refine spares_call rfl fun size => ?_
              refine spares_call rfl fun _ => ?_
              trivial

theorem forget_spares : (forget own).Spares tenant := by
  unfold forget
  refine spares_call (spares_others other rfl) fun deleted => ?_
  cases deleted with
  | error e => trivial
  | ok _ =>
      refine spares_call rfl fun _ => ?_
      refine spares_call rfl fun size => ?_
      refine spares_call rfl fun _ => ?_
      trivial

theorem unregister_spares : (unregister own).Spares tenant := by
  unfold unregister
  refine spares_call (spares_others other rfl) fun gone => ?_
  cases gone with
  | ok _ => exact forget_spares other
  | error e =>
      cases known : e.isNotFound with
      | true =>
          simp only [known, ↓reduceIte]
          exact forget_spares other
      | false =>
          simp only [known, Bool.false_eq_true, ↓reduceIte]
          trivial

omit other in
theorem counted_spares {α : Type} {operation : String} {work : Program (Except DirectoryError α)}
    (spared : work.Spares tenant) :
    (counted operation work).Spares tenant := by
  unfold counted
  apply spares_bind spared
  intro result
  exact spares_call rfl fun _ => trivial

theorem provision_spares : (provision own).Spares tenant :=
  counted_spares (register_spares other)

theorem deprovision_spares : (deprovision own).Spares tenant :=
  counted_spares (unregister_spares other)

end Directory

namespace Multiplexer

variable (x : Multiplexer) (access : Tenant) (message : Message) (target : String)

theorem sendTo_spares (entry : Entry) :
    (x.sendTo entry access message target).Spares tenant := by
  unfold sendTo
  refine spares_call rfl fun looked => ?_
  cases looked with
  | error e => trivial
  | ok sent =>
      apply spares_bind
      case first =>
        unfold Forwarder.send
        refine spares_call rfl fun answer => ?_
        exact spares_call rfl fun _ => trivial
      case rest =>
        intro read
        cases read with
        | error e => trivial
        | ok response => exact ⟨rfl, fun _ => trivial⟩

theorem forward_spares :
    (x.forward access message target).Spares tenant := by
  unfold forward
  apply spares_bind (Directory.resolve_spares access.id)
  intro resolved
  cases resolved with
  | error e => trivial
  | ok entry => exact x.sendTo_spares access message target entry

end Multiplexer
end TenantRelay
