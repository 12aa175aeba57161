import TenantRelay.Proofs.CacheHistory

/-!
When a generation ends. What is taken out of a cache may have been read from the store by somebody
who has yet to put it in, so a new generation begins, and such a reader is refused. Nothing else
begins one. Generations are counted with 64 bits: a reader for whom so many of them go by that the
count comes round is let through all the same.
-/

namespace TenantRelay

/-- A generation comes again after as many others as there are, and not before. -/
theorem generation_add_eq_iff (generation : UInt64) (n : Nat) :
    generation + UInt64.ofNat n = generation ↔ UInt64.size ∣ n := by
  have below := generation.toNat_lt
  rw [← UInt64.toNat_inj, UInt64.toNat_add, UInt64.toNat_ofNat']
  simp only [UInt64.size]
  omega

/-- Something may be gone: it was removed, or all was, or a lookup found that the time was up. -/
def CacheEvent.withdraws : CacheEvent → Bool
  | ⟨.remove _, _, _⟩ => true
  | ⟨.clear, _, _⟩ => true
  | ⟨.get _, _, .expired⟩ => true
  | _ => false

theorem Cache.generation_lookup (c : Cache) (now : Nat) (tenant : String) :
    (c.lookup now tenant).2.generation =
      c.generation + if (c.lookup now tenant).1 = .expired then 1 else 0 := by
  unfold lookup
  split
  case isTrue => rfl
  case isFalse => rw [if_neg (c.peek_ne_expired tenant), UInt64.add_zero]

theorem Cache.generation_fill (c : Cache) (now : Nat) (entry : Entry) (generation : UInt64) :
    (c.fill now entry generation).2.generation = c.generation := by
  unfold fill
  split <;> rfl

theorem CacheCall.make_generation (now : Nat) (c : Cache) (call : CacheCall) :
    (call.make now c).2.generation =
      c.generation + if CacheEvent.withdraws ⟨call, now, (call.make now c).1⟩ then 1 else 0 := by
  cases call with
  | get tenant =>
      have told : ∀ answer : Lookup, (if answer = .expired then (1 : UInt64) else 0) =
          if CacheEvent.withdraws ⟨.get tenant, now, answer⟩ then 1 else 0 := by
        intro answer
        cases answer <;> rfl
      exact (c.generation_lookup now tenant).trans (congrArg _ (told _))
  | fill entry generation =>
      exact (c.generation_fill now entry generation).trans (UInt64.add_zero _).symm
  | remove tenant => rfl
  | clear => rfl
  | insert entry => exact (UInt64.add_zero _).symm
  | wait span => exact (UInt64.add_zero _).symm

/-- A new generation begins with what is withdrawn, whether it was there or not, and with nothing
else. -/
theorem CacheCall.make_generation_eq_iff (now : Nat) (c : Cache) (call : CacheCall) :
    (call.make now c).2.generation = c.generation ↔
      CacheEvent.withdraws ⟨call, now, (call.make now c).1⟩ = false := by
  rw [call.make_generation now c]
  split
  case isTrue withdrawn =>
    rw [withdrawn]
    exact iff_of_false (fun same => by simpa [UInt64.size] using
      (generation_add_eq_iff c.generation 1).mp same) nofun
  case isFalse kept => simp [kept]

theorem Cache.refreshedAt_insert (c : Cache) (now : Nat) (entry : Entry) :
    (c.insert now entry).refreshedAt = if c.size = 0 then some now else c.refreshedAt := by
  simp [insert, size, KeyMap.isEmpty, KeyMap.size]

theorem Cache.fill_of_eq {c : Cache} {generation : UInt64} (current : c.generation = generation)
    (now : Nat) (entry : Entry) : c.fill now entry generation = (true, c.insert now entry) :=
  if_pos current

theorem Cache.fill_of_ne {c : Cache} {generation : UInt64} (past : c.generation ≠ generation)
    (now : Nat) (entry : Entry) : c.fill now entry generation = (false, c) :=
  if_neg past

namespace Chronicle

/-- Along a run the generation counts what was withdrawn. -/
theorem generation_run (x : Chronicle) (calls : List CacheCall) :
    ∃ events, (x.run calls).history = events ++ x.history ∧
      events.map CacheEvent.call = calls.reverse ∧
      (x.run calls).cache.generation =
        x.cache.generation + UInt64.ofNat (events.countP CacheEvent.withdraws) := by
  induction calls generalizing x with
  | nil => exact ⟨[], rfl, rfl, (UInt64.add_zero _).symm⟩
  | cons call rest ih =>
      obtain ⟨events, history, calls, generation⟩ := ih (x.make call)
      have first : (x.make call).cache.generation = _ := call.make_generation x.now x.cache
      -- The history is told from its end, so the first call is the last of the events.
      refine ⟨events ++ [⟨call, x.now, (call.make x.now x.cache).1⟩], ?_, ?_, ?_⟩
      · rw [List.append_assoc]
        exact history
      · rw [List.map_append, calls, List.reverse_cons]
        rfl
      · rw [first] at generation
        rw [List.countP_append, List.countP_singleton, Nat.add_comm (events.countP _),
          UInt64.ofNat_add, ← UInt64.add_assoc]
        refine Eq.trans generation ?_
        split <;> rfl

/-- A reader who noted the generation is let through later exactly if what was withdrawn in
between, by whomever, is a multiple of all generations that there are: up to that many exactly if
nothing was withdrawn. Then the entry is there, and all else is as it was but that the time begins
anew for a cache without entries; a reader who is refused changes nothing. Of all that can be done
to a cache, withdrawing alone begins a generation. -/
theorem filled_iff_nothing_withdrawn (x : Chronicle) (calls : List CacheCall) (entry : Entry) :
    let y := x.run calls
    let filled := (CacheCall.fill entry x.cache.generation).make y.now y.cache
    (∃ events, y.history = events ++ x.history ∧ events.map CacheEvent.call = calls.reverse ∧
      (filled.1 = true ↔ UInt64.size ∣ events.countP CacheEvent.withdraws) ∧
      (events.countP CacheEvent.withdraws < UInt64.size →
        (filled.1 = true ↔ ∀ e ∈ events, e.withdraws = false))) ∧
    (filled.1 = true →
      (∀ tenant, filled.2.entries.find? tenant =
        if tenant = entry.tenant then some entry else y.cache.entries.find? tenant) ∧
      (filled.2.refreshedAt =
        if y.cache.size = 0 then some y.now else y.cache.refreshedAt) ∧
      filled.2.generation = y.cache.generation ∧ filled.2.ttl = y.cache.ttl) ∧
    (filled.1 = false → filled.2 = y.cache) ∧
    ∀ call : CacheCall, (call.make y.now y.cache).2.generation = y.cache.generation ↔
      CacheEvent.withdraws ⟨call, y.now, (call.make y.now y.cache).1⟩ = false := by
  intro y filled
  obtain ⟨events, history, made, counted⟩ := x.generation_run calls
  have begins := CacheCall.make_generation_eq_iff y.now y.cache
  have came : y.cache.generation = x.cache.generation ↔
      UInt64.size ∣ events.countP CacheEvent.withdraws := by
    rw [counted, generation_add_eq_iff]
  -- Short of a whole round, the count is a multiple only if it is zero.
  have short : events.countP CacheEvent.withdraws < UInt64.size →
      (UInt64.size ∣ events.countP CacheEvent.withdraws ↔
        ∀ e ∈ events, e.withdraws = false) := by
    intro few
    rw [Nat.dvd_iff_mod_eq_zero, Nat.mod_eq_of_lt few, List.countP_eq_zero]
    simp only [Bool.not_eq_true]
  by_cases current : y.cache.generation = x.cache.generation
  · have through : filled = (true, y.cache.insert y.now entry) :=
      Cache.fill_of_eq current y.now entry
    rw [through]
    have round := came.mp current
    refine ⟨⟨events, history, made, iff_of_true rfl round,
      fun few => iff_of_true rfl ((short few).mp round)⟩, ?_,
      (fun refused => by cases refused), begins⟩
    intro _
    exact ⟨Cache.find?_insert _ _ _, y.cache.refreshedAt_insert y.now entry, rfl, rfl⟩
  · have refused : filled = (false, y.cache) := Cache.fill_of_ne current y.now entry
    rw [refused]
    have apart : ¬ UInt64.size ∣ events.countP CacheEvent.withdraws :=
      fun round => current (came.mpr round)
    exact ⟨⟨events, history, made, iff_of_false Bool.false_ne_true apart,
      fun few => iff_of_false Bool.false_ne_true fun kept => apart ((short few).mpr kept)⟩,
      (fun through => by cases through), fun _ => rfl, begins⟩

open FairWorld (former latter)

theorem filled_iff_nothing_withdrawn_of_removal :
    let x := start 10 0
    let kept := x.run [.insert former, .get "acme", .wait 3]
    let lost := x.run [.insert former, .remove "bolt", .get "acme"]
    let late := (CacheCall.fill latter x.cache.generation).make lost.now lost.cache
    ((CacheCall.fill latter x.cache.generation).make kept.now kept.cache).1 = true ∧
      late.1 = false ∧ late.2 = lost.cache := by
  intro x kept lost late
  obtain ⟨⟨events, history, _, _, through⟩, _⟩ :=
    filled_iff_nothing_withdrawn x [.insert former, .get "acme", .wait 3] latter
  obtain ⟨⟨others, past, _, _, let_through⟩, _, stays, _⟩ :=
    filled_iff_nothing_withdrawn x [.insert former, .remove "bolt", .get "acme"] latter
  obtain rfl : kept.history = events := history.trans (List.append_nil _)
  obtain rfl : lost.history = others := past.trans (List.append_nil _)
  have refused : late.1 = false :=
    Bool.eq_false_iff.mpr fun filled => absurd ((let_through (by decide)).mp filled) (by decide)
  exact ⟨(through (by decide)).mpr (by decide), refused, stays refused⟩

theorem filled_of_rounds (x : Chronicle) (entry : Entry) {n : Nat} (round : UInt64.size ∣ n) :
    let y := x.run (List.replicate n .clear)
    ((CacheCall.fill entry x.cache.generation).make y.now y.cache).1 = true ∧
      ∃ events, y.history = events ++ x.history ∧ events.length = n ∧
        ∀ e ∈ events, e.withdraws = true := by
  intro y
  obtain ⟨events, history, made, counted⟩ := x.generation_run (List.replicate n .clear)
  rw [List.reverse_replicate] at made
  have whole : events.length = n := by
    rw [← List.length_map (f := CacheEvent.call), made, List.length_replicate]
  have withdrawn : ∀ e ∈ events, e.withdraws = true := by
    intro e member
    have call := List.eq_of_mem_replicate (made ▸ List.mem_map_of_mem member)
    obtain ⟨_, _, _⟩ := e
    cases call
    rfl
  have current : y.cache.generation = x.cache.generation := by
    rw [counted, List.countP_eq_length.mpr withdrawn, whole]
    exact (generation_add_eq_iff _ _).mpr round
  exact ⟨congrArg Prod.fst (Cache.fill_of_eq current y.now entry), events, history, whole,
    withdrawn⟩

/-- The cache was cleared since the reader noted the generation, as often as there are
generations. -/
theorem filled_after_rounds :
    let y := (start 10 0).run (List.replicate UInt64.size .clear)
    ((CacheCall.fill former (start 10 0).cache.generation).make y.now y.cache).1 = true ∧
      ∃ events, y.history = events ++ (start 10 0).history ∧ events.length = UInt64.size ∧
        ∀ e ∈ events, e.withdraws = true :=
  filled_of_rounds (start 10 0) former (Nat.dvd_refl UInt64.size)

end Chronicle
end TenantRelay
