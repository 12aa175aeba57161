import TenantRelay.Proofs.Exclusive
import TenantRelay.Proofs.Generations

/-!
A tenant who is provisioned and deprovisioned at the same time. Neither waits for the
other: where the deprovision destroys before there is an instance and deletes after there
is an entry, the instance goes on without a record.
-/

namespace TenantRelay.Directory

namespace Traffic

section
variable {σ : Type} {s : Surroundings σ} {view : σ → Estate} {failing : DirectoryError → Prop}
  {start x : Traffic σ} {turns earlier later : List Turn} {tenant : String}
  {entry stale : Entry} {call : Nat} {log soFar next : List Stage} (d : Dependable s view failing)
  (pair : start.calls = [.opening (.provision tenant), .opening (.deprovision tenant)])
include pair

omit d in
theorem Run.delete_notMem_of_forgotten {known had : Bool} {caller own : Nat}
    (theirs : entry.tenant = tenant)
    (run : Run s view (Operation.Spares tenant) start
      (earlier ++ ⟨1, ⟨.forget tenant, known⟩⟩ :: later) x)
    (kept : ⟨own, ⟨.keep entry, ()⟩⟩ ∈ earlier ++ ⟨1, ⟨.forget tenant, known⟩⟩ :: later) :
    ⟨caller, ⟨.delete tenant, .ok had⟩⟩ ∉ later := by
  intro deleted
  obtain ⟨between, rest, rfl⟩ := List.append_of_mem deleted
  rw [← List.cons_append, ← List.append_assoc] at run kept
  obtain ⟨there, gone, _, done⟩ :=
    (Sole.of_pair pair).deprovision_of_delete theirs run kept
  obtain rfl := eq_one_of_deprovision pair there
  have member : ⟨.forget tenant, known⟩ ∈
      past (earlier ++ ⟨1, ⟨.forget tenant, known⟩⟩ :: between) 1 :=
    mem_past.mpr (List.mem_append_right _ List.mem_cons_self)
  rw [done] at member
  simp at member

include d

theorem Run.found_notMem_of_forgotten {known : Bool} {caller own : Nat}
    (theirs : entry.tenant = tenant)
    (run : Run s view (Operation.Spares tenant) start
      (earlier ++ ⟨1, ⟨.forget tenant, known⟩⟩ :: later) x)
    (kept : ⟨own, ⟨.keep entry, ()⟩⟩ ∈ earlier ++ ⟨1, ⟨.forget tenant, known⟩⟩ :: later)
    (unstored : (view x.site.outside).stored tenant = none) :
    ⟨caller, ⟨.find tenant, .ok (some stale)⟩⟩ ∉ later := by
  -- What is found is stored, and nobody deletes it any more.
  intro found
  obtain ⟨between, rest, rfl⟩ := List.append_of_mem found
  have whole := run
  rw [← List.cons_append, ← List.append_assoc] at whole
  obtain ⟨y, z, _, turned, after⟩ := whole.cut
  have stored : (view z.site.outside).stored tenant ≠ none := by
    rw [(turned.found d).2]
    nofun
  rcases after.stored_until d (Q := (· ≠ none)) stored (fun some => some unstored) with
    ⟨_, _, _, _, absent⟩ | ⟨_, had, deleted, _⟩
  · exact absurd nofun absent
  · exact absurd (List.mem_append_right between (List.mem_cons_of_mem _ deleted))
      (run.delete_notMem_of_forgotten pair theirs kept)

/-- What is cached of a tenant who is not stored is what the provision kept after the
deprovision had forgotten the tenant. -/
theorem Logged.kept_of_cached {known : Bool} {own : Nat}
    (files : (view start.site.outside).Files tenant) (theirs : entry.tenant = tenant)
    (logged : Logged s view (Operation.Spares tenant) start
      (soFar ++ .turn ⟨1, ⟨.forget tenant, known⟩⟩ :: next) x)
    (brief : Brief (soFar ++ .turn ⟨1, ⟨.forget tenant, known⟩⟩ :: next))
    (kept : ⟨own, ⟨.keep entry, ()⟩⟩ ∈
      turnsOf (soFar ++ .turn ⟨1, ⟨.forget tenant, known⟩⟩ :: next))
    (unstored : (view x.site.outside).stored tenant = none)
    (cached : x.site.cache.entries.find? tenant = some stale) :
    stale = entry ∧ ⟨0, ⟨.keep entry, ()⟩⟩ ∈ turnsOf next := by
  have sole := Sole.of_pair pair
  have run := logged.run
  rw [turnsOf_append] at run kept
  obtain ⟨his, caller, keep | found⟩ := logged.refilled d sole.fresh files brief cached
  · have whole := List.mem_append_right (turnsOf soFar)
      (List.mem_cons_of_mem ⟨1, ⟨.forget tenant, known⟩⟩ keep)
    obtain rfl := sole.eq_of_keep caller theirs run kept whole his
    obtain rfl := eq_zero_of_provision pair (sole.past_of_kept his run whole).1
    exact ⟨rfl, keep⟩
  · exact absurd found (run.found_notMem_of_forgotten d pair theirs kept unstored)

section
variable (run : Run s view (Operation.Spares tenant) start turns x)
include run

theorem Run.create_of_running
    (deprovisioned : x.calls[1]? = some ⟨.deprovision tenant, .done (.ok ())⟩)
    (running : (view x.site.outside).running tenant = true) :
    ∃ gone secret address, Precedes turns ⟨1, ⟨.destroy tenant, gone⟩⟩
      ⟨0, ⟨.create tenant secret, .ok address⟩⟩ := by
  have sole := Sole.of_pair pair
  have ended : Deprovisioned tenant (past turns 1) (.ok ()) := run.ended sole.fresh deprovisioned
  obtain ⟨gone, had, known, rest, absent, did⟩ := ended.forgotten
  have split : past turns 1 = [] ++ ⟨.destroy tenant, gone⟩ ::
      ([⟨.delete tenant, .ok had⟩, ⟨.forget tenant, known⟩] ++ rest) := did
  obtain ⟨earlier, later, rfl, _, _⟩ := exists_split split
  obtain ⟨y, z, _, turned, after⟩ := run.cut
  obtain ⟨caller, secret, address, created⟩ := after.created d (turned.gone d absent) running
  obtain ⟨between, last, rfl⟩ := List.append_of_mem created
  rw [← List.cons_append, ← List.append_assoc] at run
  obtain rfl := eq_zero_of_provision pair (run.of_create sole.fresh sole.closed).1
  exact ⟨gone, secret, address, precedes_of_mem earlier created⟩

theorem Run.delete_of_unstored
    (provisioned : x.calls[0]? = some ⟨.provision tenant, .done (.ok entry)⟩)
    (unstored : (view x.site.outside).stored tenant = none) :
    ∃ had, Precedes turns ⟨0, ⟨.put entry, .ok ()⟩⟩ ⟨1, ⟨.delete tenant, .ok had⟩⟩ := by
  have sole := Sole.of_pair pair
  obtain ⟨theirs, first, between, rest, rfl⟩ := run.exists_keep sole.fresh provisioned
  have lost : (view x.site.outside).stored tenant ≠ some entry := by
    rw [unstored]
    nofun
  have whole := run
  rw [← List.append_nil (between ++ _)] at whole
  obtain ⟨caller, had, deleted, there⟩ :=
    sole.deleted_of_put theirs d whole (by simp) run lost
  obtain rfl := eq_one_of_deprovision pair there
  exact ⟨had, precedes_of_mem first deleted⟩

end

/-- When a provision and a deprovision of one tenant have both ended well and the tenant is
not stored, the entry was put before the deprovision deleted it. An instance that runs was
created after the deprovision had destroyed, and what is cached was kept after the
deprovision had forgotten the tenant. -/
theorem unrecorded_after_both (files : (view start.site.outside).Files tenant)
    (logged : Logged s view (Operation.Spares tenant) start log x) (brief : Brief log)
    (provisioned : x.calls[0]? = some ⟨.provision tenant, .done (.ok entry)⟩)
    (deprovisioned : x.calls[1]? = some ⟨.deprovision tenant, .done (.ok ())⟩)
    (unstored : (view x.site.outside).stored tenant = none) :
    (∃ had, Precedes (turnsOf log) ⟨0, ⟨.put entry, .ok ()⟩⟩
      ⟨1, ⟨.delete tenant, .ok had⟩⟩) ∧
    ((view x.site.outside).running tenant = true → ∃ gone secret address,
      Precedes (turnsOf log) ⟨1, ⟨.destroy tenant, gone⟩⟩
        ⟨0, ⟨.create tenant secret, .ok address⟩⟩) ∧
    ∀ stale, x.site.cache.entries.find? tenant = some stale → stale = entry ∧
      ∃ known, Precedes (turnsOf log) ⟨1, ⟨.forget tenant, known⟩⟩
        ⟨0, ⟨.keep entry, ()⟩⟩ := by
  have sole := Sole.of_pair pair
  have run := logged.run
  refine ⟨run.delete_of_unstored d pair provisioned unstored,
    run.create_of_running d pair deprovisioned, ?_⟩
  intro stale cached
  obtain ⟨theirs, first, between, rest, same⟩ := run.exists_keep sole.fresh provisioned
  have kept : ⟨0, ⟨.keep entry, ()⟩⟩ ∈ turnsOf log := by
    rw [same]
    simp
  obtain ⟨earlier, later, known, _, rfl, _⟩ := logged.exists_forget sole.fresh deprovisioned
  obtain ⟨rfl, keep⟩ := logged.kept_of_cached d pair files theirs brief kept unstored cached
  rw [turnsOf_append]
  exact ⟨rfl, known, precedes_of_mem (turnsOf earlier) keep⟩

end

open FairWorld (former latter)

def contending (w : FairWorld) : Traffic FairWorld :=
  ⟨{ outside := w }, [.opening (.provision "acme"), .opening (.deprovision "acme")]⟩

def vacant : FairWorld :=
  .facing {}
    { get := by simp [Script.Holds]
      put := by simp [Script.Holds]
      delete := by simp [Script.Holds]
      destroy := by simp [Script.Holds] }

/-- The deprovision destroys nothing, as there is no instance yet, and deletes the entry
before the instance is opened. -/
def crossed : List Turn × Traffic FairWorld :=
  (contending vacant).play FairWorld.accepting
    (.turn 1 :: List.replicate 4 (.turn 0) ++ List.replicate 5 (.turn 1) ++
      List.replicate 5 (.turn 0))

theorem crossed_logged : Logged FairWorld.accepting FairWorld.estate (Operation.Spares "acme")
    (contending vacant) (crossed.1.map .turn) crossed.2 :=
  logged_play (by simp) _

theorem unrecorded_after_both_of_orphan :
    (∃ had, Precedes (turnsOf (crossed.1.map .turn)) ⟨0, ⟨.put latter, .ok ()⟩⟩
      ⟨1, ⟨.delete "acme", .ok had⟩⟩) ∧
    ((FairWorld.estate crossed.2.site.outside).running "acme" = true →
      ∃ gone secret address, Precedes (turnsOf (crossed.1.map .turn))
        ⟨1, ⟨.destroy "acme", gone⟩⟩ ⟨0, ⟨.create "acme" secret, .ok address⟩⟩) ∧
    ∀ stale, crossed.2.site.cache.entries.find? "acme" = some stale → stale = latter ∧
      ∃ known, Precedes (turnsOf (crossed.1.map .turn)) ⟨1, ⟨.forget "acme", known⟩⟩
        ⟨0, ⟨.keep latter, ()⟩⟩ := by
  have provisioned : crossed.2.calls[0]? =
      some ⟨.provision "acme", .done (.ok latter)⟩ := rfl
  have deprovisioned : crossed.2.calls[1]? =
      some ⟨.deprovision "acme", .done (.ok ())⟩ := rfl
  exact unrecorded_after_both FairWorld.accepting_dependable rfl
    (FairWorld.facing_files _ _ "acme") crossed_logged (Brief.of_length (by decide)) provisioned
    deprovisioned rfl

/-- A provision and a deprovision of the tenant have both ended well, and of one who is not stored
an instance runs, or an entry is cached that the provision has not made. -/
structure Unrecorded (w : FairWorld) (x : Traffic FairWorld) : Prop where
  logged : ∃ log, Logged FairWorld.accepting FairWorld.estate (Operation.Spares "acme")
    (contending w) log x
  provisioned : x.calls[0]? = some ⟨.provision "acme", .done (.ok latter)⟩
  deprovisioned : x.calls[1]? = some ⟨.deprovision "acme", .done (.ok ())⟩
  unstored : (FairWorld.estate x.site.outside).stored "acme" = none
  left : (FairWorld.estate x.site.outside).running "acme" = true ∨
    x.site.cache.entries.find? "acme" = some former

def misled : List Turn × Traffic FairWorld :=
  -- One call after the other, and then a name is looked up under which there is an entry of the
  -- tenant, too.
  (contending (.filing "bolt" former)).play FairWorld.accepting
    (List.replicate 9 (.turn 0) ++ List.replicate 6 (.turn 1) ++
      .opening (.resolve "bolt") :: List.replicate 7 (.turn 2))

def waiting : List Turn × Traffic FairWorld :=
  -- A lookup finds the former entry and waits until both calls have ended.
  (contending (.hosting former)).play FairWorld.accepting
    (.opening (.resolve "acme") :: List.replicate 4 (.turn 2) ++
      List.replicate 9 (.turn 0) ++ List.replicate 6 (.turn 1))

def waited : Traffic FairWorld :=
  -- It goes on waiting until the generations have come round.
  { waiting.2 with
    site := { waiting.2.site with
      cache := waiting.2.site.cache.emptied (18446744073709551614 + 1) } }

theorem orphan_runs : Unrecorded vacant crossed.2 where
  logged := ⟨_, crossed_logged⟩
  provisioned := rfl
  deprovisioned := rfl
  unstored := rfl
  left := .inl rfl

theorem misled_caches : Unrecorded (.filing "bolt" former) misled.2 where
  logged := ⟨_, logged_play (by simp [Operation.Spares]) _⟩
  provisioned := rfl
  deprovisioned := rfl
  unstored := rfl
  left := .inr rfl

theorem waited_caches : Unrecorded (.hosting former)
    (waited.play FairWorld.accepting [.turn 2]).2 where
  logged :=
    ⟨_, ((logged_play (by simp [Operation.Spares]) _).emptied 18446744073709551614).trans
      (logged_play (by simp) waited)⟩
  provisioned := rfl
  deprovisioned := rfl
  unstored := rfl
  left := .inr rfl

/-- What runs or is cached need not be stored, in each of three ways. -/
theorem unrecorded : Unrecorded vacant crossed.2 ∧ Unrecorded (.filing "bolt" former) misled.2 ∧
    Unrecorded (.hosting former) (waited.play FairWorld.accepting [.turn 2]).2 :=
  ⟨orphan_runs, misled_caches, waited_caches⟩

end Traffic
end TenantRelay.Directory
