import TenantRelay.Proofs.Exclusive

/-!
A provision that is undone while tenants are looked up. What it put it deletes again, but
the cache is not told: whoever read an entry before it was deleted may fill it in
afterwards, and nothing but time takes it out again.
-/

namespace TenantRelay.Directory

namespace Traffic

section
variable {σ : Type} {s : Surroundings σ} {view : σ → Estate} {failing : DirectoryError → Prop}
  {start middle x : Traffic σ} {turns earlier later : List Turn} {tenant : String}
  {entry : Entry} {call : Nat} {failure : DirectoryError}
  (alone : start.calls = [.opening (.provision tenant)])
  (failed : x.calls[0]? = some ⟨.provision tenant, .done (.error failure)⟩)
  (clean : ∀ whose original cause, failure ≠ .compensation whose original cause)
include alone failed clean

theorem Run.keep_notMem_of_undone (run : Run s view (Operation.Spares tenant) start turns x)
    (own : entry.tenant = tenant) : ⟨call, ⟨.keep entry, ()⟩⟩ ∉ turns := by
  subst own
  have sole := Sole.of_alone alone
  intro member
  obtain ⟨earlier, later, rfl⟩ := List.append_of_mem member
  obtain ⟨there, did⟩ := run.of_keep sole.fresh sole.closed
  obtain rfl := eq_zero_of_alone alone there
  have ended : Provisioned entry.tenant (past _ 0) (.error failure) := run.ended sole.fresh failed
  rw [past_split, did] at ended
  rcases ended.undone clean with unstored | ⟨other, e, had, rest, same⟩
  · exact unstored entry (by simp)
  · simp [creation] at same

theorem Run.deleted_of_put
    (run : Run s view (Operation.Spares tenant) start
      (earlier ++ ⟨call, ⟨.put entry, .ok ()⟩⟩ :: later) x)
    (own : entry.tenant = tenant) :
    ∃ had, ⟨0, ⟨.delete tenant, .ok had⟩⟩ ∈ later := by
  subst own
  have sole := Sole.of_alone alone
  obtain ⟨there, did⟩ := run.of_put sole.fresh sole.closed
  obtain rfl := eq_zero_of_alone alone there
  have ended : Provisioned entry.tenant (past _ 0) (.error failure) := run.ended sole.fresh failed
  rw [past_split, did] at ended
  rcases ended.undone clean with unstored | ⟨other, e, had, rest, same⟩
  · exact absurd (by simp) (unstored entry)
  · -- Behind the two creations both lists are the same.
    rw [List.append_assoc] at same
    have tail := (List.cons.inj (List.append_inj same rfl).2).2
    have deleted : ⟨.delete entry.tenant, .ok had⟩ ∈ past later 0 := by
      rw [tail]
      simp
    exact ⟨had, mem_past.mp deleted⟩

variable (d : Dependable s view failing)
include d

theorem Run.deleted_of_stored (before : Run s view (Operation.Spares tenant) start earlier middle)
    (after : Run s view (Operation.Spares tenant) middle later x)
    (stored : (view middle.site.outside).stored tenant = some entry)
    (lost : (view x.site.outside).stored tenant ≠ some entry) :
    ∃ had, ⟨0, ⟨.delete tenant, .ok had⟩⟩ ∈ later := by
  have sole := Sole.of_alone alone
  have run := before.trans after
  rcases after.stored_until d (Q := (· = some entry)) stored lost with
    ⟨caller, other, own, put, _⟩ | ⟨caller, had, deleted, _⟩
  · obtain ⟨between, rest, rfl⟩ := List.append_of_mem put
    rw [← List.append_assoc] at run
    obtain ⟨had, deleted⟩ := run.deleted_of_put alone failed clean own
    exact ⟨had, by simp [deleted]⟩
  · obtain ⟨between, rest, rfl⟩ := List.append_of_mem deleted
    rw [← List.append_assoc] at run
    rcases run.of_delete sole.fresh sole.closed sole.shut with ⟨there, _⟩ | ⟨there, _⟩
    · exact absurd there (no_deprovision alone _)
    · obtain rfl := eq_zero_of_alone alone there
      exact ⟨had, deleted⟩

theorem Run.deleted_of_found (run : Run s view (Operation.Spares tenant) start turns x)
    (found : ⟨call, ⟨.find tenant, .ok (some entry)⟩⟩ ∈ turns)
    (lost : (view x.site.outside).stored tenant ≠ some entry) :
    ∃ had, Precedes turns ⟨call, ⟨.find tenant, .ok (some entry)⟩⟩
      ⟨0, ⟨.delete tenant, .ok had⟩⟩ := by
  obtain ⟨earlier, later, rfl⟩ := List.append_of_mem found
  obtain ⟨y, z, before, turned, after⟩ := run.cut
  obtain ⟨had, deleted⟩ := Run.deleted_of_stored alone failed clean d (before.turn turned) after
    (turned.found d).2 lost
  exact ⟨had, precedes_of_mem earlier deleted⟩

/-- When a provision has been undone, what the cache holds of the tenant is what is
stored, or else it was cached when the provision began or was read before the provision
deleted what is stored. -/
theorem cached_after_rollback (files : (view start.site.outside).Files tenant)
    (faithful : ∀ entry, start.site.cache.entries.find? tenant = some entry →
      (view start.site.outside).stored tenant = some entry)
    (run : Run s view (Operation.Spares tenant) start turns x)
    (cached : x.site.cache.entries.find? tenant = some entry) :
    (view x.site.outside).stored tenant = some entry ∨
      ∃ had, ⟨0, ⟨.delete tenant, .ok had⟩⟩ ∈ turns ∧
        (start.site.cache.entries.find? tenant = some entry ∨
          ∃ caller, Precedes turns ⟨caller, ⟨.find tenant, .ok (some entry)⟩⟩
            ⟨0, ⟨.delete tenant, .ok had⟩⟩) := by
  by_cases stored : (view x.site.outside).stored tenant = some entry
  · exact Or.inl stored
  · right
    by_cases begun : start.site.cache.entries.find? tenant = some entry
    · obtain ⟨had, deleted⟩ :=
        Run.deleted_of_stored alone failed clean d .start run (faithful entry begun) stored
      exact ⟨had, deleted, Or.inl begun⟩
    · obtain ⟨own, between, rest, y, caller, _, rfl | rfl⟩ := run.cached_until begun cached
      · exact absurd (List.mem_append_right _ List.mem_cons_self)
          (run.keep_notMem_of_undone alone failed clean own)
      · have found := run.found_of_fill d (Sole.of_alone alone).fresh files own
        obtain ⟨had, order⟩ :=
          run.deleted_of_found alone failed clean d (List.mem_append_left _ found) stored
        exact ⟨had, order.snd_mem, Or.inr ⟨caller, order⟩⟩

end

open FairWorld (latter)

def closed : FairWorld :=
  .facing { reach := .standing (some (.config "closed")) }
    { get := by simp [Script.Holds]
      put := by simp [Script.Holds]
      delete := by simp [Script.Holds]
      destroy := by simp [Script.Holds] }

def provisioning : Traffic FairWorld :=
  ⟨{ outside := closed }, [.opening (.provision "acme")]⟩

/-- A lookup finds the entry while it is stored and fills it in when it is deleted. Then
the tenant is looked up once more. -/
def undone : List Turn × Traffic FairWorld :=
  provisioning.play FairWorld.accepting
    (List.replicate 4 (.turn 0) ++ .opening (.resolve "acme") :: List.replicate 3 (.turn 1) ++
      List.replicate 4 (.turn 0) ++ List.replicate 4 (.turn 1) ++
      .opening (.resolve "acme") :: List.replicate 2 (.turn 2))

theorem undone_run : Run FairWorld.accepting FairWorld.estate (Operation.Spares "acme")
    provisioning undone.1 undone.2 :=
  run_play (by simp [Operation.Spares]) _

/-- The guard of the cache does not see the deletion by a provision. -/
theorem ghost_cached :
    Run FairWorld.accepting FairWorld.estate (Operation.Spares "acme") provisioning
      undone.1 undone.2 ∧
    undone.2.calls[0]? =
      some ⟨.provision "acme", .done (.error (.provision (.config "closed")))⟩ ∧
    undone.2.calls[1]? = some ⟨.resolve "acme", .done (.ok latter)⟩ ∧
    undone.2.calls[2]? = some ⟨.resolve "acme", .done (.ok latter)⟩ ∧
    undone.2.site.cache.entries.find? "acme" = some latter ∧
    (FairWorld.estate undone.2.site.outside).stored "acme" = none :=
  ⟨undone_run, rfl, rfl, rfl, rfl, rfl⟩

theorem cached_after_rollback_of_ghost :
    (FairWorld.estate undone.2.site.outside).stored "acme" = some latter ∨
      ∃ had, ⟨0, ⟨.delete "acme", .ok had⟩⟩ ∈ undone.1 ∧
        (provisioning.site.cache.entries.find? "acme" = some latter ∨
          ∃ caller, Precedes undone.1 ⟨caller, ⟨.find "acme", .ok (some latter)⟩⟩
            ⟨0, ⟨.delete "acme", .ok had⟩⟩) := by
  have failed : undone.2.calls[0]? =
      some ⟨.provision "acme", .done (.error (.provision (.config "closed")))⟩ := rfl
  exact cached_after_rollback rfl failed (by simp) FairWorld.accepting_dependable
    (FairWorld.facing_files _ _ "acme") nofun undone_run rfl

end Traffic
end TenantRelay.Directory
