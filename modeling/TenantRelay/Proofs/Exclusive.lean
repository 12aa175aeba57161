import TenantRelay.Proofs.Hindsight

/-!
Runs in which no more than one call is to provision a tenant, alone or beside a
deprovision. What such a call has put and then kept is all there is of the tenant, until
a deprovision deletes it.
-/

namespace TenantRelay.Directory.Traffic

variable {σ : Type} {s : Surroundings σ} {view : σ → Estate} {failing : DirectoryError → Prop}
  {opens : Operation → Prop} {start x y : Traffic σ} {turns earlier later : List Turn}
  {tenant : String}

/-- No more than one call is to provision the tenant, and it is there from the start. -/
structure Sole (start : Traffic σ) (opens : Operation → Prop) (tenant : String) : Prop where
  fresh : start.Fresh
  spared : ∀ o, opens o → o.Spares tenant
  once : ∀ a b, start.operation? a = some (.provision tenant) →
    start.operation? b = some (.provision tenant) → a = b

namespace Sole

variable (sole : Sole start opens tenant)
include sole

theorem closed : ¬opens (.provision tenant) := fun opened => sole.spared _ opened rfl

theorem shut : ¬opens (.deprovision tenant) := fun opened => sole.spared _ opened rfl

/-! Once the call has kept an entry, all that is put or kept is this entry, and nothing is
deleted but by a deprovision. -/

variable {own : Nat} (caller : Nat) {entry other : Entry} (theirs : entry.tenant = tenant)
include theirs

theorem past_of_kept (run : Run s view opens start turns x)
    (kept : ⟨own, ⟨.keep entry, ()⟩⟩ ∈ turns) :
    start.operation? own = some (.provision tenant) ∧
      creation entry ++ [⟨.put entry, .ok ()⟩, ⟨.reach tenant entry.address, .ok ()⟩] <+:
        past turns own := by
  subst theirs
  obtain ⟨earlier, later, rfl⟩ := List.append_of_mem kept
  obtain ⟨there, did⟩ := run.of_keep sole.fresh sole.closed
  rw [past_split, did]
  exact ⟨there, List.prefix_append _ _⟩

theorem eq_of_keep (run : Run s view opens start turns x)
    (kept : ⟨own, ⟨.keep entry, ()⟩⟩ ∈ turns) (keep : ⟨caller, ⟨.keep other, ()⟩⟩ ∈ turns)
    (same : other.tenant = tenant) : other = entry := by
  obtain ⟨there, did⟩ := sole.past_of_kept theirs run kept
  obtain ⟨also, before⟩ := sole.past_of_kept same run keep
  obtain rfl := sole.once _ _ there also
  exact eq_of_creation ((List.prefix_append _ _).trans before) ((List.prefix_append _ _).trans did)

theorem eq_of_put (run : Run s view opens start turns x)
    (kept : ⟨own, ⟨.keep entry, ()⟩⟩ ∈ turns)
    (put : ⟨caller, ⟨.put other, .ok ()⟩⟩ ∈ turns) (same : other.tenant = tenant) :
    other = entry := by
  obtain ⟨there, did⟩ := sole.past_of_kept theirs run kept
  obtain ⟨earlier, later, rfl⟩ := List.append_of_mem put
  obtain ⟨also, before⟩ := run.of_put sole.fresh (same ▸ sole.closed)
  obtain rfl := sole.once _ _ there (same ▸ also)
  have created : creation other <+: past (earlier ++ ⟨own, ⟨.put other, .ok ()⟩⟩ :: later) own := by
    rw [past_split, before]
    exact List.prefix_append _ _
  exact eq_of_creation created ((List.prefix_append _ _).trans did)

theorem deprovision_of_delete {caller : Nat} {answer : Except DirectoryError Bool}
    (run : Run s view opens start
      (earlier ++ ⟨caller, ⟨.delete tenant, answer⟩⟩ :: later) x)
    (kept : ⟨own, ⟨.keep entry, ()⟩⟩ ∈
      earlier ++ ⟨caller, ⟨.delete tenant, answer⟩⟩ :: later) :
    start.operation? caller = some (.deprovision tenant) ∧
      ∃ gone, Gone gone ∧ past earlier caller = [⟨.destroy tenant, gone⟩] := by
  rcases run.of_delete sole.fresh sole.closed sole.shut with done | ⟨also, other, e, _, before⟩
  · exact done
  · -- The provision would have failed to be reached, but what it kept was reached.
    obtain ⟨there, did⟩ := sole.past_of_kept theirs run kept
    obtain rfl := sole.once _ _ there also
    rw [past_split, before] at did
    obtain ⟨rest, same⟩ := did
    simp [creation] at same

theorem deleted_of_put (d : Dependable s view failing) {between rest : List Turn}
    (run : Run s view opens start
      (earlier ++ ⟨own, ⟨.put entry, .ok ()⟩⟩ :: (between ++ rest)) x)
    (kept : ⟨own, ⟨.keep entry, ()⟩⟩ ∈
      earlier ++ ⟨own, ⟨.put entry, .ok ()⟩⟩ :: (between ++ rest))
    (before : Run s view opens start (earlier ++ ⟨own, ⟨.put entry, .ok ()⟩⟩ :: between) y)
    (lost : (view y.site.outside).stored tenant ≠ some entry) :
    ∃ caller had, ⟨caller, ⟨.delete tenant, .ok had⟩⟩ ∈ between ∧
      start.operation? caller = some (.deprovision tenant) := by
  obtain ⟨v, w, _, turned, after⟩ := before.cut
  rcases after.stored_until d (Q := (· = some entry)) (theirs ▸ turned.put d) lost with
    ⟨caller, other, same, put, unlike⟩ | ⟨caller, had, deleted, _⟩
  · have equal := sole.eq_of_put caller theirs run kept (by simp [put]) same
    exact absurd (congrArg some equal) unlike
  · obtain ⟨first, last, rfl⟩ := List.append_of_mem deleted
    have split : earlier ++ ⟨own, ⟨.put entry, .ok ()⟩⟩ ::
        ((first ++ ⟨caller, ⟨.delete tenant, .ok had⟩⟩ :: last) ++ rest) =
        (earlier ++ ⟨own, ⟨.put entry, .ok ()⟩⟩ :: first) ++
          ⟨caller, ⟨.delete tenant, .ok had⟩⟩ :: (last ++ rest) := by
      simp
    rw [split] at run kept
    exact ⟨caller, had, deleted, (sole.deprovision_of_delete theirs run kept).1⟩

end Sole

/-! A provision that is alone, and one beside a deprovision. -/

section
variable {call : Nat}

theorem eq_zero_of_alone (alone : start.calls = [.opening (.provision tenant)])
    (there : start.operation? call = some (.provision tenant)) : call = 0 := by
  rw [operation?_of_calls [.provision tenant] alone] at there
  match call with
  | 0 => rfl
  | _ + 1 => cases there

theorem no_deprovision (alone : start.calls = [.opening (.provision tenant)]) (call : Nat) :
    start.operation? call ≠ some (.deprovision tenant) := by
  rw [operation?_of_calls [.provision tenant] alone]
  match call with
  | 0 => nofun
  | _ + 1 => nofun

theorem Sole.of_alone (alone : start.calls = [.opening (.provision tenant)]) :
    Sole start (Operation.Spares tenant) tenant where
  fresh := fresh_of_calls [.provision tenant] alone
  spared _ spared := spared
  once _ _ first second :=
    (eq_zero_of_alone alone first).trans (eq_zero_of_alone alone second).symm

variable (pair : start.calls = [.opening (.provision tenant), .opening (.deprovision tenant)])
include pair

theorem eq_zero_of_provision (there : start.operation? call = some (.provision tenant)) :
    call = 0 := by
  rw [operation?_of_calls [.provision tenant, .deprovision tenant] pair] at there
  match call with
  | 0 => rfl
  | 1 => cases there
  | _ + 2 => cases there

theorem eq_one_of_deprovision (there : start.operation? call = some (.deprovision tenant)) :
    call = 1 := by
  rw [operation?_of_calls [.provision tenant, .deprovision tenant] pair] at there
  match call with
  | 0 => cases there
  | 1 => rfl
  | _ + 2 => cases there

theorem Sole.of_pair : Sole start (Operation.Spares tenant) tenant where
  fresh := fresh_of_calls [.provision tenant, .deprovision tenant] pair
  spared _ spared := spared
  once _ _ first second :=
    (eq_zero_of_provision pair first).trans (eq_zero_of_provision pair second).symm

end

end TenantRelay.Directory.Traffic
