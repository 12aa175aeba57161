import TenantRelay.Proofs.Conduct
import TenantRelay.Proofs.Effects
import TenantRelay.Proofs.Transparency

/-!
What the turns of a run tell of the cache and of the estate. Whatever held once and holds
no more was ended by a turn in between, and only few turns can end it: a put or a delete
for what is stored, a creation or a destruction for what runs, a keep or a fill for what
is cached.
-/

namespace TenantRelay

namespace Happening

variable {h : Happening} {x : Estate} {tenant : String}

theorem stored_changed (changed : (h.effect x).stored tenant ≠ x.stored tenant) :
    (∃ entry, entry.tenant = tenant ∧ h = ⟨.put entry, .ok ()⟩ ∧
      (h.effect x).stored tenant = some entry) ∨
    ∃ had, h = ⟨.delete tenant, .ok had⟩ ∧ (h.effect x).stored tenant = none := by
  obtain ⟨access, answer⟩ := h
  cases access with
  | put entry =>
      cases answer with
      | error e => exact absurd rfl changed
      | ok _ =>
          by_cases own : tenant = entry.tenant
          · exact Or.inl ⟨entry, own.symm, rfl, by simp [effect, own]⟩
          · simp [effect, own] at changed
  | delete key =>
      cases answer with
      | error e => exact absurd rfl changed
      | ok had =>
          by_cases own : tenant = key
          · subst own
            exact Or.inr ⟨had, rfl, by simp [effect]⟩
          · simp [effect, own] at changed
  | create other secret => cases answer <;> simp [effect] at changed
  | destroy other => cases answer <;> simp [effect] at changed
  | _ => exact absurd rfl changed

theorem running_changed (changed : (h.effect x).running tenant ≠ x.running tenant) :
    (∃ secret address, h = ⟨.create tenant secret, .ok address⟩) ∨
      h = ⟨.destroy tenant, .ok ()⟩ ∧ (h.effect x).running tenant = false := by
  obtain ⟨access, answer⟩ := h
  cases access with
  | create other secret =>
      cases answer with
      | error e => exact absurd rfl changed
      | ok address =>
          by_cases own : tenant = other
          · subst own
            exact Or.inl ⟨secret, address, rfl⟩
          · simp [effect, own] at changed
  | destroy other =>
      cases answer with
      | error e => exact absurd rfl changed
      | ok _ =>
          by_cases own : tenant = other
          · subst own
            exact Or.inr ⟨rfl, by simp [effect]⟩
          · simp [effect, own] at changed
  | put entry => cases answer <;> simp [effect] at changed
  | delete key => cases answer <;> simp [effect] at changed
  | _ => exact absurd rfl changed

end Happening

theorem Estate.Files.effect {tenant : String} {x : Estate} (files : x.Files tenant)
    (h : Happening) : (h.effect x).Files tenant := by
  intro key entry held own
  by_cases same : (h.effect x).stored key = x.stored key
  · exact files key entry (same ▸ held) own
  · rcases Happening.stored_changed same with ⟨put, whose, _, stored⟩ | ⟨_, _, none⟩
    · -- Whoever's entry is put, it is put under that name.
      rw [held, Option.some.injEq] at stored
      rw [← whose, ← stored, own]
    · rw [held] at none
      cases none

namespace Site

variable {σ : Type} {s : Surroundings σ} {site : Site σ} {access : Access} {tenant : String}
  {entry : Entry}

theorem find?_lookup {c : Cache} {now : Nat} {key : String}
    (cached : (c.lookup now key).2.entries.find? tenant = some entry) :
    c.entries.find? tenant = some entry := by
  unfold Cache.lookup at cached
  split at cached
  · cases cached
  · exact cached

theorem find?_answer (cached : (site.answer s access).2.cache.entries.find? tenant = some entry) :
    site.cache.entries.find? tenant = some entry ∨ entry.tenant = tenant ∧
      (access = .keep entry ∨ access = .fill entry site.cache.generation) := by
  cases access with
  | lookup key => exact Or.inl (find?_lookup cached)
  | fill filled generation =>
      simp only [answer, Cache.fill] at cached
      split at cached
      case isTrue current =>
        subst current
        simp only [Cache.find?_insert] at cached
        split at cached
        case isTrue own =>
          cases cached
          exact Or.inr ⟨own.symm, Or.inr rfl⟩
        case isFalse => exact Or.inl cached
      case isFalse => exact Or.inl cached
  | keep kept =>
      simp only [answer, Cache.find?_insert] at cached
      split at cached
      case isTrue own =>
        cases cached
        exact Or.inr ⟨own.symm, Or.inl rfl⟩
      case isFalse => exact Or.inl cached
  | forget key =>
      simp only [answer, Cache.find?_remove] at cached
      split at cached
      · cases cached
      · exact Or.inl cached
  | _ => exact Or.inl cached

end Site

namespace Directory.Traffic

variable {σ : Type} {s : Surroundings σ} {view : σ → Estate} {failing : DirectoryError → Prop}
  {opens : Operation → Prop} {start x y : Traffic σ} {turns earlier later : List Turn}
  {t : Turn} {tenant : String} {entry : Entry}

/-! What a single turn tells. -/

namespace Turns

theorem site_eq (turned : x.Turns s t y) :
    t.happening.answer = (x.site.answer s t.happening.access).1 ∧
      y.site = (x.site.answer s t.happening.access).2 := by
  cases turned with
  | turn _ answered => exact ⟨answered, rfl⟩

theorem effect (d : Dependable s view failing) (turned : x.Turns s t y) :
    view y.site.outside = t.happening.effect (view x.site.outside) := by
  obtain ⟨answered, led⟩ := turned.site_eq
  rw [led, d.answer_effect, ← answered]

theorem find?_cached (turned : x.Turns s t y)
    (cached : y.site.cache.entries.find? tenant = some entry) :
    x.site.cache.entries.find? tenant = some entry ∨ entry.tenant = tenant ∧
      (t.happening.access = .keep entry ∨
        t.happening.access = .fill entry x.site.cache.generation) := by
  rw [turned.site_eq.2] at cached
  exact Site.find?_answer cached

theorem found {call : Nat} {held : Option Entry} (d : Dependable s view failing)
    (turned : x.Turns s ⟨call, ⟨.find tenant, .ok held⟩⟩ y) :
    (view x.site.outside).stored tenant = held ∧
      (view y.site.outside).stored tenant = held := by
  rw [turned.effect d]
  have answered : .ok held = (s.find tenant x.site.outside).1 := turned.site_eq.1
  have held := (d.find tenant x.site.outside).elim (motive := fun answer _ =>
    .ok held = answer → (view x.site.outside).stored tenant = held)
    (fun _ _ _ _ same => by cases same)
    (fun _ _ told same => by cases same; exact told.1.symm) answered
  exact ⟨held, held⟩

theorem gone {call : Nat} {gone : Except ProvisionError Unit} (d : Dependable s view failing)
    (known : Gone gone) (turned : x.Turns s ⟨call, ⟨.destroy tenant, gone⟩⟩ y) :
    (view y.site.outside).running tenant = false := by
  rw [turned.effect d]
  rcases known with rfl | ⟨e, rfl, known⟩
  · simp [Happening.effect]
  · have answered : .error e = (s.destroy tenant x.site.outside).1 := turned.site_eq.1
    refine (d.destroy tenant x.site.outside).elim (motive := fun answer _ => .error e = answer →
      (view x.site.outside).running tenant = false) ?_ ?_ answered
    · intro e' w missing _ same
      cases same
      exact missing known
    · intro _ w _ same
      cases same

theorem hit {call : Nat} (turned : x.Turns s ⟨call, ⟨.lookup tenant, .hit entry⟩⟩ y) :
    x.site.cache.entries.find? tenant = some entry := by
  have answered : .hit entry = (x.site.cache.lookup (s.clock x.site.outside) tenant).1 :=
    turned.site_eq.1
  unfold Cache.lookup Cache.peek at answered
  split at answered
  · cases answered
  · split at answered
    case h_1 held => cases answered; exact held
    case h_2 => cases answered

theorem generation {call : Nat} {generation : UInt64}
    (turned : x.Turns s ⟨call, ⟨.generation, generation⟩⟩ y) :
    generation = x.site.cache.generation :=
  turned.site_eq.1

theorem forgot {call : Nat} {had : Bool}
    (turned : x.Turns s ⟨call, ⟨.forget tenant, had⟩⟩ y) :
    y.site.cache.entries.find? tenant = none := by
  rw [turned.site_eq.2]
  simp [Site.answer, Cache.remove]

theorem kept {call : Nat} (turned : x.Turns s ⟨call, ⟨.keep entry, ()⟩⟩ y) :
    y.site.cache.entries.find? entry.tenant = some entry := by
  rw [turned.site_eq.2]
  simp [Site.answer, Cache.insert]

theorem put {call : Nat} (d : Dependable s view failing)
    (turned : x.Turns s ⟨call, ⟨.put entry, .ok ()⟩⟩ y) :
    (view y.site.outside).stored entry.tenant = some entry := by
  rw [turned.effect d]
  simp [Happening.effect]

theorem deleted {call : Nat} {had : Bool} (d : Dependable s view failing)
    (turned : x.Turns s ⟨call, ⟨.delete tenant, .ok had⟩⟩ y) :
    (view y.site.outside).stored tenant = none := by
  rw [turned.effect d]
  simp [Happening.effect]

end Turns

/-! What a run tells. -/

namespace Run

theorem files (d : Dependable s view failing) (run : Run s view opens start turns x)
    (files : (view start.site.outside).Files tenant) :
    (view x.site.outside).Files tenant := by
  induction run with
  | start => exact files
  | opening _ _ _ ih => exact ih
  | turn _ turned ih => rw [turned.effect d]; exact ih.effect _
  | wait same _ ih => rw [same]; exact ih
  | clear _ ih => exact ih

/-- What held at the start and holds no more was ended by a turn, if clearing the cache
does not end it. -/
theorem turning_point {Q : Scene → Prop}
    (cleared : ∀ v : Scene, Q v → Q { v with cache := v.cache.clear })
    (run : Run s view opens start turns x) (first : Q (start.site.scene view))
    (last : ¬Q (x.site.scene view)) :
    ∃ earlier t later y z, turns = earlier ++ t :: later ∧ Run s view opens start earlier y ∧
      y.Turns s t z ∧ Q (y.site.scene view) ∧ ¬Q (z.site.scene view) := by
  induction run with
  | start => exact absurd first last
  | opening _ _ _ ih => exact ih last
  | @turn turns y z t run turned ih =>
      by_cases still : Q (y.site.scene view)
      · exact ⟨turns, t, [], y, z, rfl, run, turned, still, last⟩
      · obtain ⟨earlier, u, later, y', z', rfl, before, turned', held, ended⟩ := ih still
        exact ⟨earlier, u, later ++ [t], y', z', by simp, before, turned', held, ended⟩
  | @wait turns y w same _ ih =>
      apply ih
      intro still
      apply last
      rw [show Site.scene view { y.site with outside := w } = y.site.scene view from
        congrArg (Scene.mk y.site.cache) same]
      exact still
  | clear _ ih => exact ih fun still => last (cleared _ still)

variable (d : Dependable s view failing)
include d

theorem stored_until {Q : Option Entry → Prop} (run : Run s view opens start turns x)
    (first : Q ((view start.site.outside).stored tenant))
    (last : ¬Q ((view x.site.outside).stored tenant)) :
    (∃ call entry, entry.tenant = tenant ∧ ⟨call, ⟨.put entry, .ok ()⟩⟩ ∈ turns ∧
      ¬Q (some entry)) ∨
    ∃ call had, ⟨call, ⟨.delete tenant, .ok had⟩⟩ ∈ turns ∧ ¬Q none := by
  obtain ⟨earlier, ⟨call, h⟩, later, y, z, rfl, _, turned, held, ended⟩ :=
    run.turning_point (Q := fun v => Q (v.estate.stored tenant)) (fun _ held => held) first last
  have led : ¬Q ((h.effect (view y.site.outside)).stored tenant) := by
    rw [← turned.effect d]
    exact ended
  have changed : (h.effect (view y.site.outside)).stored tenant ≠
      (view y.site.outside).stored tenant := by
    intro same
    rw [same] at led
    exact led held
  rcases Happening.stored_changed changed with ⟨entry, own, rfl, stored⟩ | ⟨had, rfl, none⟩
  · rw [stored] at led
    exact Or.inl ⟨call, entry, own, by simp, led⟩
  · rw [none] at led
    exact Or.inr ⟨call, had, by simp, led⟩

theorem created (run : Run s view opens start turns x)
    (first : (view start.site.outside).running tenant = false)
    (last : (view x.site.outside).running tenant = true) :
    ∃ call secret address, ⟨call, ⟨.create tenant secret, .ok address⟩⟩ ∈ turns := by
  obtain ⟨earlier, ⟨call, h⟩, later, y, z, rfl, _, turned, idle, ended⟩ :=
    run.turning_point (Q := fun v => v.estate.running tenant = false) (fun _ held => held) first
      (fun idle => Bool.false_ne_true (idle.symm.trans last))
  have led : (h.effect (view y.site.outside)).running tenant ≠ false := by
    rw [← turned.effect d]
    exact ended
  have changed : (h.effect (view y.site.outside)).running tenant ≠
      (view y.site.outside).running tenant := by
    intro same
    exact led (same.trans idle)
  rcases Happening.running_changed changed with ⟨secret, address, rfl⟩ | ⟨rfl, stopped⟩
  · exact ⟨call, secret, address, by simp⟩
  · exact absurd stopped led

omit d in
theorem cached_until (run : Run s view opens start turns x)
    (first : start.site.cache.entries.find? tenant ≠ some entry)
    (last : x.site.cache.entries.find? tenant = some entry) :
    entry.tenant = tenant ∧ ∃ earlier later y call, Run s view opens start earlier y ∧
      (turns = earlier ++ ⟨call, ⟨.keep entry, ()⟩⟩ :: later ∨
        turns = earlier ++ ⟨call, ⟨.fill entry y.site.cache.generation, true⟩⟩ :: later) := by
  obtain ⟨earlier, ⟨call, ⟨access, answer⟩⟩, later, y, z, rfl, before, turned, held, ended⟩ :=
    run.turning_point (Q := fun v => v.cache.entries.find? tenant ≠ some entry)
      (fun _ _ cached => by cases cached) first (fun lacking => lacking last)
  obtain ⟨own, kept | filled⟩ :=
    (turned.find?_cached (Classical.not_not.mp ended)).resolve_left held
  · cases kept
    exact ⟨own, earlier, later, y, call, before, Or.inl rfl⟩
  · cases filled
    have answered : answer = true := by
      rw [show answer = _ from turned.site_eq.1]
      simp [Site.answer, Cache.fill]
    subst answered
    exact ⟨own, earlier, later, y, call, before, Or.inr rfl⟩

variable (fresh : start.Fresh) (files : (view start.site.outside).Files tenant)
include fresh files

theorem read_of_fill {call : Nat} {generation : UInt64} {kept : Bool}
    (run : Run s view opens start
      (earlier ++ ⟨call, ⟨.fill entry generation, kept⟩⟩ :: later) x)
    (own : entry.tenant = tenant) :
    ∃ first last, earlier = first ++ ⟨call, ⟨.generation, generation⟩⟩ :: last ∧
      ⟨call, ⟨.find tenant, .ok (some entry)⟩⟩ ∈ last := by
  obtain ⟨o, _, next⟩ := run.conducted fresh
  obtain ⟨key, done, measure, -, did⟩ := next.fill
  have split : past earlier call = done ++ ⟨.generation, generation⟩ ::
      [⟨.find key, .ok (some entry)⟩, ⟨.count measure, ()⟩] := by
    simpa using did
  obtain ⟨first, last, rfl, -, since⟩ := exists_split split
  have found : ⟨call, ⟨.find key, .ok (some entry)⟩⟩ ∈ last := by
    rw [← mem_past, since]
    exact List.mem_cons_self
  -- It was filed under the key that was looked for, so this is its tenant.
  obtain ⟨between, rest, rfl⟩ := List.append_of_mem found
  have whole : Run s view opens start
      ((first ++ ⟨call, ⟨.generation, generation⟩⟩ :: between) ++
        ⟨call, ⟨.find key, .ok (some entry)⟩⟩ ::
          (rest ++ ⟨call, ⟨.fill entry generation, kept⟩⟩ :: later)) x := by
    simpa using run
  obtain ⟨y, z, before, turned, _⟩ := whole.cut
  have same : key = tenant := before.files d files key entry (turned.found d).1 own
  subst same
  exact ⟨first, _, rfl, found⟩

theorem found_of_fill {call : Nat} {generation : UInt64} {kept : Bool}
    (run : Run s view opens start
      (earlier ++ ⟨call, ⟨.fill entry generation, kept⟩⟩ :: later) x)
    (own : entry.tenant = tenant) : ⟨call, ⟨.find tenant, .ok (some entry)⟩⟩ ∈ earlier := by
  obtain ⟨first, last, rfl, found⟩ := run.read_of_fill d fresh files own
  simp [found]

/-- What gets into the cache of a tenant who was forgotten was found or made afterwards, unless it
is filled in at a generation that was read before. -/
theorem refilled {call : Nat} {had : Bool}
    (run : Run s view opens start
      (earlier ++ ⟨call, ⟨.forget tenant, had⟩⟩ :: later) x)
    (cached : x.site.cache.entries.find? tenant = some entry) :
    entry.tenant = tenant ∧ ∃ caller, ⟨caller, ⟨.keep entry, ()⟩⟩ ∈ later ∨
      ⟨caller, ⟨.find tenant, .ok (some entry)⟩⟩ ∈ later ∨
      ∃ generation first last between rest,
        earlier = first ++ ⟨caller, ⟨.generation, generation⟩⟩ :: last ∧
        later = between ++ ⟨caller, ⟨.fill entry generation, true⟩⟩ :: rest := by
  obtain ⟨y, z, before, forgot, after⟩ := run.cut
  obtain ⟨own, between, rest, w, caller, since, rfl | rfl⟩ :=
    after.cached_until (by rw [forgot.forgot]; nofun) cached
  · exact ⟨own, caller, Or.inl (by simp)⟩
  · have whole : Run s view opens start ((earlier ++ ⟨call, ⟨.forget tenant, had⟩⟩ ::
        between) ++ ⟨caller, ⟨.fill entry w.site.cache.generation, true⟩⟩ :: rest) x := by
      simpa using run
    obtain ⟨first, last, split, found⟩ := whole.read_of_fill d fresh files own
    -- The generation was read after the tenant was forgotten, or before.
    rcases List.append_eq_append_iff.mp split with ⟨more, _, tail⟩ | ⟨less, rfl, tail⟩
    · cases more with
      | nil => cases tail
      | cons _ more =>
          cases tail
          exact ⟨own, caller, Or.inr (Or.inl (by simp [found]))⟩
    · cases less with
      | nil => cases tail
      | cons _ less =>
          cases tail
          exact ⟨own, caller, Or.inr (Or.inr ⟨_, first, less, between, rest, rfl, rfl⟩)⟩

end Run

end Directory.Traffic

end TenantRelay
