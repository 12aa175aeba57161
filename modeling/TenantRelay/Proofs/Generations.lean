import TenantRelay.Proofs.Hindsight
import TenantRelay.Proofs.Withdrawals

/-!
Generations along a run. What is withdrawn from the cache while a lookup is under way keeps the
lookup from filling in what it found, as long as the generations do not come round before it ends.
-/

namespace TenantRelay

/-- Something is taken out of the cache, or a lookup finds that the time is up. -/
def Happening.withdraws : Happening → Bool
  | ⟨.forget _, _⟩ => true
  | ⟨.lookup _, .expired⟩ => true
  | _ => false

theorem Site.generation_answer {σ : Type} (s : Surroundings σ) (site : Site σ) (access : Access) :
    (site.answer s access).2.cache.generation = site.cache.generation +
      if Happening.withdraws ⟨access, (site.answer s access).1⟩ then 1 else 0 := by
  have still := (UInt64.add_zero site.cache.generation).symm
  cases access with
  | lookup tenant =>
      have told : ∀ answer : Lookup, (if answer = .expired then (1 : UInt64) else 0) =
          if Happening.withdraws ⟨.lookup tenant, answer⟩ then 1 else 0 := by
        intro answer
        cases answer <;> rfl
      exact (site.cache.generation_lookup (s.clock site.outside) tenant).trans
        (congrArg _ (told _))
  | fill entry generation =>
      exact (site.cache.generation_fill (s.clock site.outside) entry generation).trans still
  | forget tenant => rfl
  | _ => exact still

def Cache.emptied (c : Cache) (n : Nat) : Cache :=
  { c with entries := ∅, refreshedAt := none, generation := c.generation + UInt64.ofNat n }

theorem Cache.clear_emptied (c : Cache) (n : Nat) : (c.emptied n).clear = c.emptied (n + 1) := by
  simp only [emptied, clear, Cache.mk.injEq, true_and]
  rw [UInt64.ofNat_add, UInt64.add_assoc]
  rfl

namespace Directory

def Stage.withdraws : Stage → Bool
  | turn t => t.happening.withdraws
  | clear => true

/-- No lookup is under way for so long that the generations come round. -/
def Brief (log : List Stage) : Prop :=
  ∀ earlier between later call generation entry kept,
    log = earlier ++ .turn ⟨call, ⟨.generation, generation⟩⟩ ::
      (between ++ .turn ⟨call, ⟨.fill entry generation, kept⟩⟩ :: later) →
    between.countP Stage.withdraws < UInt64.size

theorem Brief.of_append {log more : List Stage} (brief : Brief (log ++ more)) : Brief log := by
  rintro earlier between later call generation entry kept rfl
  apply brief earlier between (later ++ more) call generation entry kept
  simp

theorem Brief.of_length {log : List Stage} (short : log.length < UInt64.size) : Brief log := by
  rintro earlier between later call generation entry kept rfl
  have few := between.countP_le_length (p := Stage.withdraws)
  simp only [List.length_append, List.length_cons] at short
  omega

namespace Traffic

variable {σ : Type} {s : Surroundings σ} {view : σ → Estate} {failing : DirectoryError → Prop}
  {opens : Operation → Prop} {start x y : Traffic σ} {t : Turn} {tenant : String} {entry : Entry}
  {call : Nat} {log earlier between later : List Stage}

theorem Turns.generation_eq (turned : x.Turns s t y) : y.site.cache.generation =
    x.site.cache.generation + if t.happening.withdraws then 1 else 0 := by
  obtain ⟨call, access, answer⟩ := t
  obtain ⟨answered, led⟩ := turned.site_eq
  have told : answer = (x.site.answer s access).1 := answered
  subst told
  rw [led]
  exact Site.generation_answer s x.site access

/-- Along a run the generation counts what was withdrawn. -/
theorem Logged.generation (logged : Logged s view opens start log x) :
    x.site.cache.generation =
      start.site.cache.generation + UInt64.ofNat (log.countP Stage.withdraws) := by
  induction logged with
  | start => exact (UInt64.add_zero _).symm
  | opening _ _ _ ih => exact ih
  | wait _ _ ih => exact ih
  | turn _ turned ih =>
      rw [turned.generation_eq, ih, List.countP_append, List.countP_singleton, UInt64.ofNat_add,
        UInt64.add_assoc, Stage.withdraws]
      split <;> rfl
  | clear _ ih =>
      rw [List.countP_append, UInt64.ofNat_add, ← UInt64.add_assoc, ← ih]
      rfl

/-- What is filled in at the generation that was read has seen no withdrawal, short of a whole
round of generations. -/
theorem Logged.countP_eq_zero {generation : UInt64} (logged : Logged s view opens start
      (earlier ++ .turn ⟨call, ⟨.generation, generation⟩⟩ ::
        (between ++ .turn ⟨call, ⟨.fill entry generation, true⟩⟩ :: later)) x)
    (few : between.countP Stage.withdraws < UInt64.size) :
    between.countP Stage.withdraws = 0 := by
  rw [← List.cons_append, ← List.append_assoc] at logged
  obtain ⟨w, _, before, filled, _⟩ := logged.cut
  obtain ⟨u, v, _, read, since⟩ := before.cut
  have current : w.site.cache.generation = generation := by
    have answered : true = (w.site.cache.fill _ entry generation).1 := filled.site_eq.1
    unfold Cache.fill at answered
    split at answered
    case isTrue same => exact same
    case isFalse => cases answered
  have noted : v.site.cache.generation = generation := by
    rw [read.site_eq.2]
    exact read.generation.symm
  have round := since.generation
  rw [current, noted] at round
  exact Nat.eq_zero_of_dvd_of_lt ((generation_add_eq_iff _ _).mp round.symm) few

theorem Logged.emptied (logged : Logged s view opens start log x) (n : Nat) :
    Logged s view opens start (log ++ List.replicate (n + 1) .clear)
      { x with site := { x.site with cache := x.site.cache.emptied (n + 1) } } := by
  induction n with
  | zero => exact .clear logged
  | succ n ih =>
      rw [List.replicate_succ', ← List.append_assoc, ← Cache.clear_emptied]
      exact .clear ih

/-- Of a tenant who was forgotten, only what was found or made afterwards gets into the cache. -/
theorem Logged.refilled (d : Dependable s view failing) (fresh : start.Fresh)
    (files : (view start.site.outside).Files tenant) {had : Bool}
    (logged : Logged s view opens start
      (earlier ++ .turn ⟨call, ⟨.forget tenant, had⟩⟩ :: later) x)
    (brief : Brief (earlier ++ .turn ⟨call, ⟨.forget tenant, had⟩⟩ :: later))
    (cached : x.site.cache.entries.find? tenant = some entry) :
    entry.tenant = tenant ∧ ∃ caller, ⟨caller, ⟨.keep entry, ()⟩⟩ ∈ turnsOf later ∨
      ⟨caller, ⟨.find tenant, .ok (some entry)⟩⟩ ∈ turnsOf later := by
  have run := logged.run
  rw [turnsOf_append] at run
  obtain ⟨own, caller, keep | found | ⟨generation, first, last, middle, rest, read, filled⟩⟩ :=
    Run.refilled d fresh files run cached
  · exact ⟨own, caller, Or.inl keep⟩
  · exact ⟨own, caller, Or.inr found⟩
  · -- It would have been withdrawn in between, and is filled in at the same generation.
    obtain ⟨first, last, rfl, -, -⟩ := turnsOf_split read
    obtain ⟨middle, rest, rfl, -, -⟩ := turnsOf_split filled
    have split : first ++ .turn ⟨caller, ⟨.generation, generation⟩⟩ :: last ++
        .turn ⟨call, ⟨.forget tenant, had⟩⟩ ::
          (middle ++ .turn ⟨caller, ⟨.fill entry generation, true⟩⟩ :: rest) =
        first ++ .turn ⟨caller, ⟨.generation, generation⟩⟩ ::
          ((last ++ .turn ⟨call, ⟨.forget tenant, had⟩⟩ :: middle) ++
            .turn ⟨caller, ⟨.fill entry generation, true⟩⟩ :: rest) := by
      simp
    rw [split] at logged brief
    have none := logged.countP_eq_zero (brief _ _ _ _ _ _ _ rfl)
    rw [List.countP_eq_zero] at none
    exact absurd rfl (none _ (List.mem_append_right _ List.mem_cons_self))

end Traffic
end Directory
end TenantRelay
