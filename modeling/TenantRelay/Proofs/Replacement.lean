import TenantRelay.Proofs.Exclusive

/-!
Looking up a tenant whose instance was just replaced. The new entry takes the place of the
old one in the store and in the cache, but no generation begins: whoever read the old entry
before may fill it in afterwards, and it is then answered with instead of the new one.
-/

namespace TenantRelay.Directory

namespace Traffic

section
variable {σ : Type} {s : Surroundings σ} {view : σ → Estate} {failing : DirectoryError → Prop}
  {opens : Operation → Prop} {start middle x : Traffic σ}
  {first between rest before after : List Turn} {tenant : String} {entry stale : Entry}
  {own caller : Nat} {held : Option Entry} (d : Dependable s view failing)
include d

theorem Sole.held_of_found (sole : Sole start opens tenant) (theirs : entry.tenant = tenant)
    (staying : ∀ call, start.operation? call ≠ some (.deprovision tenant))
    (run : Run s view opens start (first ++ ⟨own, ⟨.put entry, .ok ()⟩⟩ :: rest) x)
    (kept : ⟨own, ⟨.keep entry, ()⟩⟩ ∈ first ++ ⟨own, ⟨.put entry, .ok ()⟩⟩ :: rest)
    (found : ⟨caller, ⟨.find tenant, .ok held⟩⟩ ∈ rest) : held = some entry := by
  obtain ⟨between, last, rfl⟩ := List.append_of_mem found
  have whole := run
  rw [← List.cons_append, ← List.append_assoc] at whole
  obtain ⟨y, z, soFar, turned, _⟩ := whole.cut
  rw [← (turned.found d).1]
  apply Classical.byContradiction
  intro lost
  obtain ⟨_, _, _, there⟩ := sole.deleted_of_put theirs d run kept soFar lost
  exact staying _ there

/-- What is cached of a tenant after an entry was kept for good is this entry, or one that
was found before the entry was put and filled in after it was kept. -/
theorem Sole.cached_of_kept (sole : Sole start opens tenant) (theirs : entry.tenant = tenant)
    (staying : ∀ call, start.operation? call ≠ some (.deprovision tenant))
    (files : (view start.site.outside).Files tenant)
    (run : Run s view opens start (first ++ ⟨own, ⟨.put entry, .ok ()⟩⟩ ::
      (between ++ ⟨own, ⟨.keep entry, ()⟩⟩ :: rest)) x)
    (cached : x.site.cache.entries.find? tenant = some stale) :
    stale = entry ∨ ∃ caller generation,
      ⟨caller, ⟨.find tenant, .ok (some stale)⟩⟩ ∈ first ∧
        ⟨caller, ⟨.fill stale generation, true⟩⟩ ∈ rest := by
  have kept : ⟨own, ⟨.keep entry, ()⟩⟩ ∈ first ++ ⟨own, ⟨.put entry, .ok ()⟩⟩ ::
      (between ++ ⟨own, ⟨.keep entry, ()⟩⟩ :: rest) := by
    simp
  by_cases same : stale = entry
  · exact Or.inl same
  · right
    have whole := run
    rw [← List.cons_append, ← List.append_assoc] at whole
    obtain ⟨y, z, soFar, turned, going⟩ := whole.cut
    have current : z.site.cache.entries.find? tenant = some entry := theirs ▸ turned.kept
    have lacking : z.site.cache.entries.find? tenant ≠ some stale := by
      rw [current]
      intro also
      exact same (Option.some.inj also).symm
    obtain ⟨his, since, last, w, caller, _, rfl | rfl⟩ := going.cached_until lacking cached
    · exact absurd (sole.eq_of_keep caller theirs run kept (by simp) his) same
    · rw [← List.cons_append, ← List.append_assoc] at whole
      have found := whole.found_of_fill d sole.fresh files his
      rw [List.append_assoc, List.cons_append] at found
      refine ⟨caller, _, ?_, List.mem_append_right _ List.mem_cons_self⟩
      rcases List.mem_append.mp found with early | late
      · exact early
      · rcases List.mem_cons.mp late with put | late
        · cases put
        · have later := List.mem_append_left
            (⟨caller, ⟨.fill stale w.site.cache.generation, true⟩⟩ :: last) late
          rw [List.append_assoc, List.cons_append] at later
          have equal := sole.held_of_found d theirs staying run kept later
          exact absurd (Option.some.inj equal) same

/-- Whoever is resolved after a provision has ended well is answered with the new entry,
unless the store fails to be read. The exception is an entry that was found before the new
one was put and filled in after that one was kept. -/
theorem resolved_after_provision (alone : start.calls = [.opening (.provision tenant)])
    (files : (view start.site.outside).Files tenant)
    (run : Run s view (Operation.Spares tenant) start before middle)
    (returned : middle.calls[0]? = some ⟨.provision tenant, .done (.ok entry)⟩)
    (going : Run s view (Operation.Spares tenant) middle after x)
    {result : Except DirectoryError Entry} (opened : middle.calls.length ≤ own)
    (ended : x.calls[own]? = some ⟨.resolve tenant, .done result⟩) :
    result = .ok entry ∨
    (∃ e, result = .error e ∧ ⟨own, ⟨.find tenant, .error e⟩⟩ ∈ after) ∨
    ∃ stale caller generation, result = .ok stale ∧
      Precedes (before ++ after) ⟨caller, ⟨.find tenant, .ok (some stale)⟩⟩
        ⟨0, ⟨.put entry, .ok ()⟩⟩ ∧
      Precedes (before ++ after) ⟨0, ⟨.keep entry, ()⟩⟩
        ⟨caller, ⟨.fill stale generation, true⟩⟩ := by
  have sole := Sole.of_alone alone
  obtain ⟨theirs, first, between, rest, rfl⟩ := run.exists_keep sole.fresh returned
  have whole := run.trans going
  have resolved : Resolved tenant (past _ own) result := whole.ended sole.fresh ended
  rw [past_append, run.past_eq_nil opened, List.nil_append] at resolved
  simp only [List.append_assoc, List.cons_append] at whole ⊢
  have told : ∀ {held}, ⟨.find tenant, .ok held⟩ ∈ past after own → held = some entry := by
    intro held found
    have later := List.mem_append_right rest (mem_past.mp found)
    exact sole.held_of_found d theirs (no_deprovision alone) whole (by simp)
      (List.mem_append_right between (List.mem_cons_of_mem _ later))
  cases resolved with
  | read found =>
      cases told found
      exact Or.inl rfl
  | absent found => cases told found
  | failed failed => exact Or.inr (Or.inl ⟨_, rfl, mem_past.mp failed⟩)
  | @hit stale hit =>
      obtain ⟨soFar, last, rfl⟩ := List.append_of_mem (mem_past.mp hit)
      obtain ⟨y, z, more, turned, _⟩ := going.cut
      have short := run.trans more
      simp only [List.append_assoc, List.cons_append] at short
      rcases sole.cached_of_kept d theirs (no_deprovision alone) files short turned.hit with
        rfl | ⟨caller, generation, found, filled⟩
      · exact Or.inl rfl
      · have order := precedes_of_mem (a := ⟨0, ⟨.keep entry, ()⟩⟩)
          (first ++ ⟨0, ⟨.put entry, .ok ()⟩⟩ :: between) filled
        have order := order.append (⟨own, ⟨.lookup tenant, .hit stale⟩⟩ :: last)
        simp only [List.append_assoc, List.cons_append] at order
        exact Or.inr (Or.inr ⟨stale, caller, generation, rfl, ⟨first, _, rfl, found⟩, order⟩)

end

open FairWorld (former latter)

def replacing : Traffic FairWorld :=
  ⟨{ outside := .hosting former }, [.opening (.provision "acme")]⟩

def replaced : List Turn × Traffic FairWorld :=
  -- A lookup finds the former entry, and the tenant is provisioned anew.
  replacing.play FairWorld.accepting
    (.opening (.resolve "acme") :: List.replicate 3 (.turn 1) ++ List.replicate 9 (.turn 0))

def outdated : List Turn × Traffic FairWorld :=
  -- The lookup ends, and the tenant is looked up again.
  replaced.2.play FairWorld.accepting
    (List.replicate 4 (.turn 1) ++ .opening (.resolve "acme") :: List.replicate 2 (.turn 2))

theorem replaced_run : Run FairWorld.accepting FairWorld.estate (Operation.Spares "acme")
    replacing replaced.1 replaced.2 :=
  run_play (by simp [Operation.Spares]) _

theorem outdated_run : Run FairWorld.accepting FairWorld.estate (Operation.Spares "acme")
    replaced.2 outdated.1 outdated.2 :=
  run_play (by simp [Operation.Spares]) _

/-- The provision has returned the latter entry, and then the former one is answered with. -/
theorem former_resolved :
    Run FairWorld.accepting FairWorld.estate (Operation.Spares "acme") replacing
      replaced.1 replaced.2 ∧
    replaced.2.calls[0]? = some ⟨.provision "acme", .done (.ok latter)⟩ ∧
    Run FairWorld.accepting FairWorld.estate (Operation.Spares "acme") replaced.2
      outdated.1 outdated.2 ∧
    replaced.2.calls.length ≤ 2 ∧
    outdated.2.calls[2]? = some ⟨.resolve "acme", .done (.ok former)⟩ ∧
    (FairWorld.estate outdated.2.site.outside).stored "acme" = some latter ∧
    former.secret ≠ latter.secret :=
  ⟨replaced_run, rfl, outdated_run, Nat.le_refl 2, rfl, rfl, by decide⟩

theorem resolved_after_provision_of_former :
    let result : Except DirectoryError Entry := .ok former
    result = .ok latter ∨
    (∃ e, result = .error e ∧ ⟨2, ⟨.find "acme", .error e⟩⟩ ∈ outdated.1) ∨
    ∃ stale caller generation, result = .ok stale ∧
      Precedes (replaced.1 ++ outdated.1) ⟨caller, ⟨.find "acme", .ok (some stale)⟩⟩
        ⟨0, ⟨.put latter, .ok ()⟩⟩ ∧
      Precedes (replaced.1 ++ outdated.1) ⟨0, ⟨.keep latter, ()⟩⟩
        ⟨caller, ⟨.fill stale generation, true⟩⟩ := by
  have returned : replaced.2.calls[0]? = some ⟨.provision "acme", .done (.ok latter)⟩ := rfl
  exact resolved_after_provision FairWorld.accepting_dependable rfl
    (FairWorld.hosting_files former "acme") replaced_run returned outdated_run (Nat.le_refl 2) rfl

end Traffic
end TenantRelay.Directory
