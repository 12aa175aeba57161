import TenantRelay.Proofs.Account
import TenantRelay.Proofs.FairWorld
import TenantRelay.Proofs.Hindsight

/-!
One tenant's calls among those of others. The tenants share one cache: its time, its
generation and its entries, so what the others do decides whether a lookup of the tenant is
a hit. It does not decide what the lookup is answered, nor what is done outside for the
tenant.
-/

namespace TenantRelay

/-- A store that tells what it was last given. A call that fails changes nothing, and
neither does any other call. -/
structure Retentive {σ : Type} (s : Surroundings σ) (view : σ → Estate) : Prop where
  tells : ∀ tenant w found, (s.find tenant w).1 = .ok found → found = (view w).stored tenant
  keeps : ∀ access (site : Site σ), (view (site.answer s access).2.outside).stored =
    (Happening.effect ⟨access, (site.answer s access).1⟩ (view site.outside)).stored

theorem Dependable.retentive {σ : Type} {s : Surroundings σ} {view : σ → Estate}
    {failing : DirectoryError → Prop} (d : Dependable s view failing) : Retentive s view where
  tells tenant w found told := by
    refine (d.find tenant w).elim (motive := fun answer _ => answer = .ok found →
      found = (view w).stored tenant) ?_ ?_ told
    · intro e w' _ _ same
      cases same
    · intro held w' told same
      cases same
      exact told.1
  keeps access site := congrArg Estate.stored (d.answer_effect access site)

def Estate.Keyed (x : Estate) : Prop :=
  ∀ key entry, x.stored key = some entry → entry.tenant = key

/-- Accesses that a call for this tenant makes. What is filled in shows only in the past. -/
def Access.Serves (tenant : String) : Access → Prop
  | lookup key => key = tenant
  | generation => True
  | fill _ _ => True
  | keep entry => entry.tenant = tenant
  | forget key => key = tenant
  | cachedCount => True
  | find key => key = tenant
  | put entry => entry.tenant = tenant
  | delete key => key = tenant
  | secret => True
  | now => True
  | create key _ => key = tenant
  | reach key _ => key = tenant
  | destroy key => key = tenant
  | count _ => True
  | post _ => False
  | outbound _ _ => False
  | inbound _ _ _ => False

namespace Estate.Keyed

variable {x y : Estate}

theorem of_stored (keyed : x.Keyed) (same : y.stored = x.stored) : y.Keyed := by
  intro key entry held
  rw [same] at held
  exact keyed key entry held

theorem effect (keyed : x.Keyed) (h : Happening) : (h.effect x).Keyed := by
  intro key entry held
  have files : x.Files entry.tenant := by
    intro other stored found same
    rw [← keyed other stored found]
    exact same
  exact (files.effect h key entry held rfl).symm

end Estate.Keyed

theorem Happening.stored_effect {tenant : String} {h : Happening} {x : Estate}
    (serves : h.access.Serves tenant) :
    (h.effect x).stored tenant = Ledger.storedAfter h (x.stored tenant) := by
  obtain ⟨access, answer⟩ := h
  cases access with
  | put entry =>
      have own : entry.tenant = tenant := serves
      subst own
      cases answer with
      | error e => rfl
      | ok _ => simp [effect, Ledger.storedAfter]
  | delete key =>
      have own : key = tenant := serves
      subst own
      cases answer with
      | error e => rfl
      | ok had => simp [effect, Ledger.storedAfter]
  | create key secret => cases answer <;> rfl
  | destroy key => cases answer <;> rfl
  | _ => rfl

theorem Happening.stored_effect_other {tenant other : String} {h : Happening} {x : Estate}
    (serves : h.access.Serves other) (different : other ≠ tenant) :
    (h.effect x).stored tenant = x.stored tenant := by
  apply Classical.byContradiction
  intro changed
  rcases stored_changed changed with ⟨entry, own, rfl, _⟩ | ⟨had, rfl, _⟩
  · exact different (Eq.trans (Eq.symm serves) own)
  · exact different (Eq.symm serves)

theorem Site.cachedAfter_of_answer {σ : Type} {s : Surroundings σ} {site : Site σ}
    {tenant : String} {access : Access} {cached : Option Entry} {entry : Entry}
    (serves : access.Serves tenant)
    (filled : ∀ entry generation, access = .fill entry generation → entry.tenant = tenant)
    (bound : ∀ entry, site.cache.entries.find? tenant = some entry → cached = some entry)
    (held : (site.answer s access).2.cache.entries.find? tenant = some entry) :
    Ledger.cachedAfter ⟨access, (site.answer s access).1⟩ cached = some entry := by
  cases access with
  | forget key =>
      have own : key = tenant := serves
      subst own
      simp [answer, Cache.find?_remove] at held
  | keep kept =>
      have own : kept.tenant = tenant := serves
      subst own
      simpa [answer, Cache.find?_insert, Ledger.cachedAfter] using held
  | fill found generation =>
      have own := filled found generation rfl
      subst own
      by_cases current : site.cache.generation = generation
      · simpa [answer, Cache.fill, current, Cache.find?_insert, Ledger.cachedAfter] using held
      · simp only [answer, Cache.fill, current, ↓reduceIte] at held ⊢
        exact bound entry held
  | lookup key => exact bound entry (find?_lookup held)
  | _ => exact bound entry held

namespace Directory

theorem Operation.Next.serves {o : Operation} {past : List Happening} {access : Access}
    (next : o.Next past access) : access.Serves o.tenant := by
  cases o with
  | resolve tenant =>
      cases next with
      | lookup => rfl
      | find => rfl
      | _ => trivial
  | provision tenant =>
      cases next with
      | secret => trivial
      | now => trivial
      | cachedCount => trivial
      | count => trivial
      | put _ own => exact own
      | keep _ own => exact own
      | _ => rfl
  | deprovision tenant =>
      cases next with
      | cachedCount => trivial
      | count => trivial
      | _ => rfl

namespace Traffic

variable {σ : Type}

def own (tenant : String) (x : Traffic σ) : List Call :=
  x.calls.filter (·.operation.tenant == tenant)

def isOwn (tenant : String) (x : Traffic σ) (call : Nat) : Bool :=
  (x.operation? call).any (·.tenant == tenant)

/-- How the calls for a tenant have dealt with the store and the control plane, apart from
reading, and what secrets they were given. -/
def dealings (tenant : String) (x : Traffic σ) (turns : List Turn) : List Happening :=
  ((turns.filter fun t => x.isOwn tenant t.call).map (·.happening)).filter (·.access.isDealing)

end Traffic

def Call.told? : Call → Option (Except DirectoryError (Option Entry))
  | ⟨o, .done result⟩ => some (o.told result)
  | ⟨_, .step _ _⟩ => none

namespace Traffic

variable {σ : Type} (s : Surroundings σ) (view : σ → Estate) (tenant : String)

/-- A call for the tenant may be opened when the one before it has ended, and a provision
only if that one did not find the tenant. -/
structure Admits (x : Traffic σ) (o : Operation) : Prop where
  ended : o.tenant = tenant → ∀ c ∈ x.own tenant, c.told?.isSome = true
  missed : o = .provision tenant → ∃ e, e.isNotFound = true ∧
    (x.own tenant).getLast? = some ⟨.resolve tenant, .done (.error e)⟩

/-- Runs in which the calls for one tenant come one after another. Those for others may come
whenever they will. -/
inductive Orderly (start : Traffic σ) : List Turn → Traffic σ → Prop where
  | start : Orderly start [] start
  | opening {turns : List Turn} {x : Traffic σ} (o : Operation) : x.Admits tenant o →
      Orderly start turns x → Orderly start turns { x with calls := x.calls ++ [.opening o] }
  | turn {turns : List Turn} {x y : Traffic σ} {t : Turn} : Orderly start turns x →
      x.Turns s t y → Orderly start (turns ++ [t]) y
  | wait {turns : List Turn} {x : Traffic σ} {w : σ} : view w = view x.site.outside →
      Orderly start turns x → Orderly start turns { x with site := { x.site with outside := w } }
  | clear {turns : List Turn} {x : Traffic σ} : Orderly start turns x →
      Orderly start turns { x with site := { x.site with cache := x.site.cache.clear } }

variable {s view tenant} {start x y : Traffic σ} {turns : List Turn} {t : Turn}

theorem Orderly.run (orderly : Orderly s view tenant start turns x) :
    Run s view (fun _ => True) start turns x := by
  induction orderly with
  | start => exact .start
  | opening o _ _ ih => exact .opening o trivial ih
  | turn _ turned ih => exact .turn ih turned
  | wait same _ ih => exact .wait same ih
  | clear _ ih => exact .clear ih

/-! What a turn does to what a tenant sees. -/

namespace Turns

variable (r : Retentive s view)
include r

theorem stored (turned : x.Turns s t y) : (view y.site.outside).stored =
    (t.happening.effect (view x.site.outside)).stored := by
  obtain ⟨answered, led⟩ := turned.site_eq
  rw [led, r.keeps, ← answered]

theorem tells {call : Nat} {held : Option Entry} {key : String}
    (turned : x.Turns s ⟨call, ⟨.find key, .ok held⟩⟩ y) :
    held = (view x.site.outside).stored key :=
  r.tells key x.site.outside held turned.site_eq.1.symm

end Turns

theorem Run.keyed {opens : Operation → Prop} (r : Retentive s view)
    (run : Run s view opens start turns x) (keyed : (view start.site.outside).Keyed) :
    (view x.site.outside).Keyed := by
  induction run with
  | start => exact keyed
  | opening _ _ _ ih => exact ih
  | turn _ turned ih => exact (ih.effect _).of_stored (turned.stored r)
  | wait same _ ih => exact ih.of_stored (congrArg Estate.stored same)
  | clear _ ih => exact ih

theorem Run.own_of_fill {opens : Operation → Prop} (r : Retentive s view) (fresh : start.Fresh)
    (keyed : (view start.site.outside).Keyed) (run : Run s view opens start turns x)
    {call : Nat} {o : Operation} {entry : Entry} {generation : UInt64}
    {next : Bool → Program (Except DirectoryError o.Result)}
    (there : x.calls[call]? = some ⟨o, .step (.fill entry generation) next⟩) :
    entry.tenant = o.tenant := by
  obtain ⟨tenant, first, measure, rfl, did⟩ :=
    Operation.Next.fill (run.obeys fresh there).1
  have found : ⟨.find tenant, .ok (some entry)⟩ ∈ past turns call := by
    rw [did]
    simp
  obtain ⟨earlier, later, rfl⟩ := List.append_of_mem (mem_past.mp found)
  obtain ⟨y, z, before, turned, _⟩ := run.cut
  exact before.keyed r keyed tenant entry (turned.tells r).symm

/-! The calls for a tenant in a run. -/

section
variable {call : Nat} {o : Operation} {p q : Program (Except DirectoryError o.Result)}

theorem split_calls (there : x.calls[call]? = some ⟨o, p⟩) :
    x.calls = x.calls.take call ++ ⟨o, p⟩ :: x.calls.drop (call + 1) ∧
    x.calls.set call ⟨o, q⟩ = x.calls.take call ++ ⟨o, q⟩ :: x.calls.drop (call + 1) := by
  obtain ⟨within, same⟩ := List.getElem?_eq_some_iff.mp there
  constructor
  · rw [← same, ← List.drop_eq_getElem_cons within, List.take_append_drop]
  · exact List.set_eq_take_append_cons_drop.trans (if_pos within)

/-- A call for another tenant goes on, and those for this one are what they were. -/
theorem own_set_of_other (there : x.calls[call]? = some ⟨o, p⟩) (other : o.tenant ≠ tenant)
    (site : Site σ) : own tenant ⟨site, x.calls.set call ⟨o, q⟩⟩ = x.own tenant := by
  obtain ⟨before, after⟩ := split_calls (q := q) there
  unfold own
  rw [after]
  conv => rhs; rw [before]
  simp [List.filter_append, other]

theorem own_set_of_own (there : x.calls[call]? = some ⟨o, p⟩) (theirs : o.tenant = tenant)
    (going : Call.told? ⟨o, p⟩ = none) {done : List Call} {c : Call}
    (owned : x.own tenant = done ++ [c]) (ended : ∀ c ∈ done, c.told?.isSome = true)
    (site : Site σ) :
    c = ⟨o, p⟩ ∧ own tenant ⟨site, x.calls.set call ⟨o, q⟩⟩ = done ++ [⟨o, q⟩] := by
  -- The call that goes on is the last one, for those before it have ended.
  obtain ⟨before, after⟩ := split_calls (q := q) there
  unfold own at owned ⊢
  rw [before] at owned
  rw [after]
  simp only [List.filter_append, List.filter_cons, theirs, beq_self_eq_true, ↓reduceIte] at owned ⊢
  generalize (x.calls.take call).filter (·.operation.tenant == tenant) = first at owned ⊢
  rcases List.eq_nil_or_concat
      ((x.calls.drop (call + 1)).filter (·.operation.tenant == tenant)) with none | ⟨more, e, some⟩
  · rw [none] at owned ⊢
    obtain ⟨rfl, same⟩ := List.append_inj' owned rfl
    cases same
    exact ⟨rfl, rfl⟩
  · rw [some, List.concat_eq_append, ← List.cons_append, ← List.append_assoc] at owned
    obtain ⟨rfl, _⟩ := List.append_inj' owned rfl
    have absurd := ended ⟨o, p⟩ (by simp)
    rw [going] at absurd
    cases absurd

end

theorem isOwn_of_getElem? {call : Nat} {c : Call} (there : x.calls[call]? = some c) :
    x.isOwn tenant call = (c.operation.tenant == tenant) := by
  simp [isOwn, Traffic.operation?, there]

theorem isOwn_opening {call : Nat} {o : Operation} (within : call < x.calls.length) :
    isOwn tenant { x with calls := x.calls ++ [.opening o] } call = x.isOwn tenant call := by
  simp [isOwn, Traffic.operation?, List.getElem?_append_left within]

theorem Turns.isOwn (turned : x.Turns s t y) (call : Nat) :
    y.isOwn tenant call = x.isOwn tenant call := by
  simp only [Traffic.isOwn, turned.operation? call]

theorem dealings_congr (same : ∀ u ∈ turns, y.isOwn tenant u.call = x.isOwn tenant u.call) :
    y.dealings tenant turns = x.dealings tenant turns := by
  unfold dealings
  rw [List.filter_congr same]

theorem dealings_append (more : List Turn) :
    x.dealings tenant (turns ++ more) = x.dealings tenant turns ++ x.dealings tenant more := by
  simp only [dealings, List.filter_append, List.map_append]

end Traffic

/-! What the calls for a tenant come to, one after another and without a cache. -/

def account (answers : Answers) (k : Ledger) (os : List Operation) :
    List (Except DirectoryError (Option Entry)) × Ledger :=
  os.foldl (fun sofar o => (sofar.1 ++ [o.told (o.program.alone answers sofar.2).1],
    (o.program.alone answers sofar.2).2)) ([], k)

section
variable {answers : Answers} {k l : Ledger} {tenant : String}

theorem account_append (os : List Operation) (o : Operation) :
    account answers k (os ++ [o]) =
      ((account answers k os).1 ++
        [o.told (o.program.alone answers (account answers k os).2).1],
      (o.program.alone answers (account answers k os).2).2) := by
  simp only [account, List.foldl_append, List.foldl_cons, List.foldl_nil]

/-- The calls for a tenant, of which the last one may still go on. -/
inductive Ongoing (answers : Answers) (k : Ledger) : List Call → Ledger → Prop where
  | idle {l : Ledger} : l.Twin k → l.Faithful → Ongoing answers k [] l
  | busy {done : List Call} {c : Call} {l : Ledger} :
      done.map Call.told? = (account answers k (done.map (·.operation))).1.map some →
      c.rest.Comes answers (c.operation.Matches (c.operation.program.alone answers
        (account answers k (done.map (·.operation))).2)) l →
      Ongoing answers k (done ++ [c]) l

theorem Call.told?_eq_some {c : Call} (ended : c.told?.isSome = true) :
    ∃ result, c = ⟨c.operation, .done result⟩ ∧ c.told? = some (c.operation.told result) := by
  obtain ⟨o, done | ⟨access, next⟩⟩ := c
  · exact ⟨_, rfl, rfl⟩
  · cases ended

theorem isSome_of_map_told? {cs : List Call}
    {told : List (Except DirectoryError (Option Entry))}
    (all : cs.map Call.told? = told.map some) : ∀ c ∈ cs, c.told?.isSome = true := by
  intro c member
  have also : c.told? ∈ told.map some := all ▸ List.mem_map_of_mem member
  obtain ⟨result, _, same⟩ := List.mem_map.mp also
  rw [← same]
  rfl

/-- Once all have ended, each was told what it would have been told alone. -/
theorem Ongoing.settled {cs : List Call} (ongoing : Ongoing answers k cs l)
    (ended : ∀ c ∈ cs, c.told?.isSome = true) :
    cs.map Call.told? = (account answers k (cs.map (·.operation))).1.map some ∧
      l.Twin (account answers k (cs.map (·.operation))).2 ∧ l.Faithful := by
  cases ongoing with
  | idle twin faithful => exact ⟨rfl, twin, faithful⟩
  | @busy done c _ told comes =>
      obtain ⟨result, same, last⟩ := Call.told?_eq_some (ended c (by simp))
      rw [same] at comes
      have matched : c.operation.Matches _ result l := comes
      rw [List.map_append, List.map_append, List.map_singleton, List.map_singleton,
        account_append, told, last, matched.told, List.map_append]
      exact ⟨rfl, matched.twin, matched.faithful⟩

theorem filterMap_told? {cs : List Call} {told : List (Except DirectoryError (Option Entry))}
    (all : cs.map Call.told? = told.map some) : cs.filterMap Call.told? = told := by
  have same : (cs.map Call.told?).filterMap id = (told.map some).filterMap id := by rw [all]
  simpa [List.filterMap_map] using same

theorem Ongoing.within {cs : List Call} (ongoing : Ongoing answers k cs l) :
    cs.filterMap Call.told? <+: (account answers k (cs.map (·.operation))).1 ∧
      l.dealt <+: (account answers k (cs.map (·.operation))).2.dealt := by
  cases ongoing with
  | idle twin _ => exact ⟨List.prefix_refl _, twin.dealt ▸ List.prefix_refl _⟩
  | @busy done c _ told comes =>
      have last := comes.alone
      rw [List.filterMap_append, filterMap_told? told, List.map_append, List.map_singleton,
        account_append]
      refine ⟨?_, last.twin.dealt ▸ Program.dealt_alone⟩
      cases ended : c.told? with
      | none => simp [ended]
      | some result =>
          obtain ⟨_, same, also⟩ := Call.told?_eq_some (c := c) (by rw [ended]; rfl)
          rw [same] at comes
          have matched : c.operation.Matches _ _ l := comes
          have wholly : [c].filterMap Call.told? = [c.operation.told
              (c.operation.program.alone answers (account answers k (done.map (·.operation))).2).1] := by
            rw [List.filterMap_cons_some also, List.filterMap_nil, matched.told]
          exact wholly ▸ List.prefix_refl _

theorem Ongoing.absent {cs : List Call} {e : DirectoryError} (ongoing : Ongoing answers k cs l)
    (last : cs.getLast? = some ⟨.resolve tenant, .done (.error e)⟩) : l.stored = none := by
  cases ongoing with
  | idle _ _ => cases last
  | @busy done c _ told comes =>
      rw [List.getLast?_concat] at last
      cases last
      have matched : (Operation.resolve tenant).Matches ((resolve tenant).alone answers _)
        (.error e) l := comes
      rw [alone_resolve] at matched
      have told := matched.told
      have twin := matched.twin.stored
      cases held : (account answers k (done.map (·.operation))).2.stored with
      | none =>
          rw [held] at twin
          exact Option.map_eq_none_iff.mp twin
      | some entry =>
          rw [held] at told
          cases told

theorem Ongoing.opening {cs : List Call} {o : Operation} (ongoing : Ongoing answers k cs l)
    (ended : ∀ c ∈ cs, c.told?.isSome = true)
    (absent : o = .provision o.tenant → l.stored = none) :
    Ongoing answers k (cs ++ [.opening o]) l := by
  obtain ⟨told, twin, faithful⟩ := ongoing.settled ended
  exact .busy told (o.comes twin faithful absent)

end

namespace Traffic

variable {σ : Type} {s : Surroundings σ} {view : σ → Estate} {tenant : String}
  {start x y : Traffic σ} {turns : List Turn} {t : Turn} {answers : Answers} {k l : Ledger}

structure Reflects (view : σ → Estate) (tenant : String) (turns : List Turn) (x : Traffic σ)
    (l : Ledger) : Prop where
  cached : ∀ entry, x.site.cache.entries.find? tenant = some entry → l.cached = some entry
  stored : (view x.site.outside).stored tenant = l.stored
  dealt : l.dealt = (x.dealings tenant turns).map Happening.undated

def Follows (answers : Answers) (hs : List Happening) : Prop :=
  ∀ earlier h later, hs = earlier ++ h :: later →
    h.undated = ⟨h.access.undated, answers (earlier.map Happening.undated) h.access.undated⟩

theorem Follows.of_append {hs more : List Happening} (follows : Follows answers (hs ++ more)) :
    Follows answers hs := by
  intro earlier h later same
  exact follows earlier h (later ++ more) (by rw [same]; simp)

theorem Reflects.of_other (r : Retentive s view) (turned : x.Turns s t y) {other : String}
    (serves : t.happening.access.Serves other) (different : other ≠ tenant)
    (filled : ∀ entry generation, t.happening.access = .fill entry generation →
      entry.tenant = other)
    (foreign : x.isOwn tenant t.call = false) (reflects : Reflects view tenant turns x l) :
    Reflects view tenant (turns ++ [t]) y l where
  cached entry held := by
    rcases turned.find?_cached held with before | ⟨own, kept | fill⟩
    · exact reflects.cached entry before
    · rw [kept] at serves
      exact absurd (Eq.trans (Eq.symm serves) own) different
    · exact absurd (Eq.trans (Eq.symm (filled _ _ fill)) own) different
  stored := by
    rw [turned.stored r, Happening.stored_effect_other serves different]
    exact reflects.stored
  dealt := by
    rw [dealings_congr fun u _ => turned.isOwn u.call, dealings_append, reflects.dealt]
    simp [dealings, foreign]

theorem Reflects.of_own (r : Retentive s view) (turned : x.Turns s t y)
    (serves : t.happening.access.Serves tenant)
    (filled : ∀ entry generation, t.happening.access = .fill entry generation →
      entry.tenant = tenant)
    (theirs : x.isOwn tenant t.call = true)
    (read : ∀ e, t.happening ≠ ⟨.find tenant, .error e⟩)
    (follows : Follows answers (y.dealings tenant (turns ++ [t])))
    (reflects : Reflects view tenant turns x l) :
    l.Allows answers t.happening ∧ Reflects view tenant (turns ++ [t]) y (l.after t.happening) := by
  have dealt : y.dealings tenant (turns ++ [t]) = x.dealings tenant turns ++
      if t.happening.access.isDealing then [t.happening] else [] := by
    rw [dealings_congr fun u _ => turned.isOwn u.call, dealings_append]
    simp [dealings, theirs, List.filter_cons]
  obtain ⟨call, h⟩ := t
  refine ⟨⟨?_, ?_, ?_⟩, ⟨?_, ?_, ?_⟩⟩
  · intro dealing
    rw [reflects.dealt]
    apply follows (x.dealings tenant turns) h []
    rw [dealt]
    simp [dealing]
  · rintro key (e | found) rfl
    · have own : key = tenant := serves
      subst own
      exact absurd rfl (read e)
    · have own : key = tenant := serves
      subst own
      rw [turned.tells r, reflects.stored]
  · rintro key entry rfl
    have own : key = tenant := serves
    subst own
    exact reflects.cached entry turned.hit
  · intro entry held
    obtain ⟨access, answer⟩ := h
    obtain ⟨answered, led⟩ := turned.site_eq
    rw [led] at held
    have after := Site.cachedAfter_of_answer serves filled reflects.cached held
    have same : answer = (x.site.answer s access).1 := answered
    rw [same]
    exact after
  · rw [turned.stored r, Happening.stored_effect serves, reflects.stored]
    rfl
  · rw [dealt]
    simp only [Ledger.after, reflects.dealt]
    split <;> simp

theorem Ongoing.of_turn (r : Retentive s view) (fresh : start.Fresh)
    (keyed : (view start.site.outside).Keyed)
    (run : Run s view (fun _ => True) start turns x) (turned : x.Turns s t y)
    (read : ∀ e, t.happening ≠ ⟨.find tenant, .error e⟩)
    (follows : Follows answers (y.dealings tenant (turns ++ [t])))
    (reflects : Reflects view tenant turns x l) (ongoing : Ongoing answers k (x.own tenant) l) :
    ∃ l, Reflects view tenant (turns ++ [t]) y l ∧ Ongoing answers k (y.own tenant) l := by
  have whole := turned
  cases turned with
  | @turn o next ready answered =>
      have serves := Operation.Next.serves (run.obeys fresh ready).1
      have filled : ∀ entry generation, t.happening.access = .fill entry generation →
          entry.tenant = o.tenant := by
        intro entry generation fill
        obtain ⟨call, access, answer⟩ := t
        cases fill
        exact run.own_of_fill r fresh keyed ready
      by_cases theirs : o.tenant = tenant
      · have own : x.isOwn tenant t.call = true := by
          rw [isOwn_of_getElem? ready]
          exact beq_iff_eq.mpr theirs
        rw [theirs] at serves filled
        obtain ⟨allowed, after⟩ := reflects.of_own r whole serves filled own read follows
        refine ⟨l.after t.happening, after, ?_⟩
        generalize owned : x.own tenant = cs at ongoing
        cases ongoing with
        | idle _ _ =>
            have member : ⟨o, .step t.happening.access next⟩ ∈ x.own tenant :=
              List.mem_filter.mpr ⟨List.mem_of_getElem? ready, beq_iff_eq.mpr theirs⟩
            rw [owned] at member
            cases member
        | @busy done c _ told comes =>
            obtain ⟨rfl, going⟩ :=
              own_set_of_own ready theirs rfl owned (isSome_of_map_told? told) _
            rw [going]
            exact .busy told (comes t.happening.answer allowed)
      · have foreign : x.isOwn tenant t.call = false := by
          rw [isOwn_of_getElem? ready]
          exact beq_eq_false_iff_ne.mpr theirs
        refine ⟨l, reflects.of_other r whole serves theirs filled foreign, ?_⟩
        rw [own_set_of_other ready theirs]
        exact ongoing

theorem Reflects.initial (cold : start.site.cache.entries = ∅) :
    Reflects view tenant [] start { stored := (view start.site.outside).stored tenant } where
  cached entry held := by
    rw [cold] at held
    cases held
  stored := rfl
  dealt := rfl

/-- At any time of a run the tenant's calls are as far as they would be one after another,
without a cache and without anybody else. -/
theorem Orderly.ongoing (r : Retentive s view) (idle : start.calls = [])
    (cold : start.site.cache.entries = ∅) (keyed : (view start.site.outside).Keyed)
    (alike : ((view start.site.outside).stored tenant).map Entry.undated =
      k.stored.map Entry.undated) (undealt : k.dealt = [])
    (orderly : Orderly s view tenant start turns x)
    (read : ∀ call e, ⟨call, ⟨.find tenant, .error e⟩⟩ ∉ turns)
    (follows : Follows answers (x.dealings tenant turns)) :
    ∃ l, Reflects view tenant turns x l ∧ Ongoing answers k (x.own tenant) l := by
  have fresh := fresh_of_calls [] idle
  induction orderly with
  | start =>
      refine ⟨_, .initial cold, ?_⟩
      have none : start.own tenant = [] := by
        unfold own
        rw [idle]
        rfl
      rw [none]
      exact .idle ⟨alike, undealt.symm⟩ (Ledger.faithful_of_uncached rfl)
  | @opening turns x o admits orderly ih =>
      have same : dealings tenant { x with calls := x.calls ++ [.opening o] } turns =
          x.dealings tenant turns :=
        dealings_congr fun u member => isOwn_opening (orderly.run.call_lt member)
      rw [same] at follows
      obtain ⟨l, reflects, ongoing⟩ := ih read follows
      refine ⟨l, ⟨reflects.cached, reflects.stored, same ▸ reflects.dealt⟩, ?_⟩
      unfold own
      rw [List.filter_append]
      by_cases theirs : o.tenant = tenant
      · have opened : [Call.opening o].filter (·.operation.tenant == tenant) = [.opening o] := by
          simp [Call.opening, theirs]
        rw [opened]
        refine ongoing.opening (admits.ended theirs) fun provisions => ?_
        rw [theirs] at provisions
        obtain ⟨e, _, last⟩ := admits.missed provisions
        exact ongoing.absent last
      · have unopened : [Call.opening o].filter (·.operation.tenant == tenant) = [] := by
          simp [Call.opening, theirs]
        rw [unopened, List.append_nil]
        exact ongoing
  | @turn turns x y t orderly turned ih =>
      have same : y.dealings tenant turns = x.dealings tenant turns :=
        dealings_congr fun u _ => turned.isOwn u.call
      have sofar : Follows answers (x.dealings tenant turns) := by
        rw [dealings_append, same] at follows
        exact follows.of_append
      obtain ⟨l, reflects, ongoing⟩ :=
        ih (fun call e member => read call e (List.mem_append_left _ member)) sofar
      refine Ongoing.of_turn r fresh keyed orderly.run turned ?_ follows reflects ongoing
      intro e failed
      apply read t.call e
      rw [← failed]
      exact List.mem_append_right _ (List.mem_singleton.mpr rfl)
  | wait same _ ih =>
      obtain ⟨l, reflects, ongoing⟩ := ih read follows
      refine ⟨l, ⟨reflects.cached, ?_, reflects.dealt⟩, ongoing⟩
      rw [← reflects.stored]
      exact congrArg (fun v => Estate.stored v tenant) same
  | clear _ ih =>
      obtain ⟨l, reflects, ongoing⟩ := ih read follows
      refine ⟨l, ⟨?_, reflects.stored, reflects.dealt⟩, ongoing⟩
      intro entry held
      cases held

def told (tenant : String) (x : Traffic σ) : List (Except DirectoryError (Option Entry)) :=
  (x.own tenant).filterMap Call.told?

/-- What a tenant's calls are told, and how they deal with the store and the control plane,
does not depend on anybody else: it is the same in two runs, one of which may be without any
other calls, if they start with the same entry of the tenant's and their dealings are
answered alike. Of a run in which the tenant's last call still goes on it is the beginning. -/
theorem independent_of_others {τ : Type} {s' : Surroundings τ} {view' : τ → Estate}
    {start' x' : Traffic τ} {turns' : List Turn}
    (r : Retentive s view) (r' : Retentive s' view')
    (idle : start.calls = []) (idle' : start'.calls = [])
    (cold : start.site.cache.entries = ∅) (cold' : start'.site.cache.entries = ∅)
    (keyed : (view start.site.outside).Keyed) (keyed' : (view' start'.site.outside).Keyed)
    (alike : (view start.site.outside).stored tenant = (view' start'.site.outside).stored tenant)
    (orderly : Orderly s view tenant start turns x)
    (orderly' : Orderly s' view' tenant start' turns' x')
    (read : ∀ call e, ⟨call, ⟨.find tenant, .error e⟩⟩ ∉ turns)
    (read' : ∀ call e, ⟨call, ⟨.find tenant, .error e⟩⟩ ∉ turns')
    (follows : Follows answers (x.dealings tenant turns))
    (follows' : Follows answers (x'.dealings tenant turns'))
    (same : (x.own tenant).map (·.operation) = (x'.own tenant).map (·.operation))
    (ended' : ∀ c ∈ x'.own tenant, c.told?.isSome = true) :
    (x.told tenant <+: x'.told tenant ∧
      (x.dealings tenant turns).map Happening.undated <+:
        (x'.dealings tenant turns').map Happening.undated) ∧
    ((∀ c ∈ x.own tenant, c.told?.isSome = true) →
      x.told tenant = x'.told tenant ∧
      (x.dealings tenant turns).map Happening.undated =
        (x'.dealings tenant turns').map Happening.undated) := by
  -- Both are compared with the account of the same calls without a cache.
  let k : Ledger := { stored := (view' start'.site.outside).stored tenant }
  obtain ⟨l, reflects, ongoing⟩ := orderly.ongoing (k := k) r idle cold keyed
    (congrArg (Option.map Entry.undated) alike) rfl read follows
  obtain ⟨l', reflects', ongoing'⟩ :=
    orderly'.ongoing (k := k) r' idle' cold' keyed' rfl rfl read' follows'
  obtain ⟨told', twin', _⟩ := ongoing'.settled ended'
  rw [← same] at told' twin'
  unfold told
  rw [← reflects.dealt, ← reflects'.dealt, filterMap_told? told', twin'.dealt]
  refine ⟨ongoing.within, fun ended => ?_⟩
  obtain ⟨told, twin, _⟩ := ongoing.settled ended
  exact ⟨filterMap_told? told, twin.dealt⟩

/-! A pair of such runs. -/

section
variable (s view tenant)

def Admitted : List Move → Traffic σ → Prop
  | [], _ => True
  | .opening o :: rest, x =>
    x.Admits tenant o ∧ Admitted rest { x with calls := x.calls ++ [.opening o] }
  | .turn call :: rest, x => Admitted rest (x.take s call).2

end

theorem Orderly.trans {middle : Traffic σ} {more : List Turn}
    (first : Orderly s view tenant start turns middle)
    (second : Orderly s view tenant middle more x) :
    Orderly s view tenant start (turns ++ more) x := by
  induction second with
  | start => simpa using first
  | opening o admits _ ih => exact .opening o admits ih
  | turn _ turned ih =>
      rw [← List.append_assoc]
      exact .turn ih turned
  | wait same _ ih => exact .wait same ih
  | clear _ ih => exact .clear ih

theorem Orderly.take (orderly : Orderly s view tenant start turns x) (call : Nat) :
    Orderly s view tenant start (turns ++ (x.take s call).1) (x.take s call).2 := by
  unfold Traffic.take
  split
  case h_1 o access next ready =>
    exact .turn orderly
      (.turn (t := ⟨call, ⟨access, (x.site.answer s access).1⟩⟩) ready rfl)
  case h_2 => simpa using orderly
  case h_3 => simpa using orderly

theorem orderly_play {moves : List Move} (admitted : Admitted s tenant moves start) :
    Orderly s view tenant start (start.play s moves).1 (start.play s moves).2 := by
  induction moves generalizing start with
  | nil => exact .start
  | cons move rest ih =>
      cases move with
      | opening o => exact (Orderly.opening o admitted.1 .start).trans (ih admitted.2)
      | turn call => exact (Orderly.start.take call).trans (ih admitted)

theorem admits_of_all {o : Operation} (ended : (x.own tenant).all (·.told?.isSome) = true)
    (other : o ≠ .provision tenant) : x.Admits tenant o where
  ended _ := List.all_eq_true.mp ended
  missed provisions := absurd provisions other

theorem admits_provision {e : DirectoryError} (missing : e.isNotFound = true)
    (ended : (x.own tenant).all (·.told?.isSome) = true)
    (missed : (x.own tenant).getLast? = some ⟨.resolve tenant, .done (.error e)⟩) :
    x.Admits tenant (.provision tenant) where
  ended _ := List.all_eq_true.mp ended
  missed _ := ⟨e, missing, missed⟩

theorem admits_other {o : Operation} (different : o.tenant ≠ tenant) : x.Admits tenant o where
  ended own := absurd own different
  missed own := absurd (congrArg Operation.tenant own) different

theorem unfailing_of_all (all : turns.all (fun t => match t.happening with
      | ⟨.find _, .error _⟩ => false
      | _ => true) = true) (call : Nat) (e : DirectoryError) :
    ⟨call, ⟨.find tenant, .error e⟩⟩ ∉ turns := by
  intro member
  have read := List.all_eq_true.mp all _ member
  cases read

def quiet : List Move :=
  -- The tenant is resolved twice, deprovisioned, not found any more and provisioned.
  .opening (.resolve "acme") :: List.replicate 7 (.turn 0) ++
  .opening (.resolve "acme") :: List.replicate 2 (.turn 1) ++
  .opening (.deprovision "acme") :: List.replicate 6 (.turn 2) ++
  .opening (.resolve "acme") :: List.replicate 4 (.turn 3) ++
  .opening (.provision "acme") :: List.replicate 9 (.turn 4)

/-- The same while another tenant is deprovisioned. The first resolve can then not fill in
what it found, and the second one has to read the store again. -/
def busy : List Move :=
  .opening (.resolve "acme") :: List.replicate 3 (.turn 0) ++
  .opening (.deprovision "umbra") :: List.replicate 6 (.turn 1) ++ List.replicate 2 (.turn 0) ++
  .opening (.resolve "acme") :: List.replicate 7 (.turn 2) ++
  .opening (.deprovision "acme") :: List.replicate 6 (.turn 3) ++
  .opening (.resolve "acme") :: List.replicate 4 (.turn 4) ++
  .opening (.provision "acme") :: List.replicate 9 (.turn 5)

def hosted : Traffic FairWorld := ⟨{ outside := .hosting FairWorld.former }, []⟩

theorem hosted_keyed : (FairWorld.estate hosted.site.outside).Keyed := by
  intro key entry held
  exact ((FairWorld.hosting_files FairWorld.former entry.tenant) key entry held rfl).symm

theorem quiet_admitted : Admitted FairWorld.accepting "acme" quiet hosted := by
  refine And.intro (admits_of_all rfl (by simp)) ?_
  refine And.intro (admits_of_all rfl (by simp)) ?_
  refine And.intro (admits_of_all rfl (by simp)) ?_
  refine And.intro (admits_of_all rfl (by simp)) ?_
  refine And.intro (admits_provision (e := .notFound "acme") rfl rfl rfl) ?_
  exact trivial

theorem busy_admitted : Admitted FairWorld.accepting "acme" busy hosted := by
  refine And.intro (admits_of_all rfl (by simp)) ?_
  refine And.intro (admits_other (by decide)) ?_
  refine And.intro (admits_of_all rfl (by simp)) ?_
  refine And.intro (admits_of_all rfl (by simp)) ?_
  refine And.intro (admits_of_all rfl (by simp)) ?_
  refine And.intro (admits_provision (e := .notFound "acme") rfl rfl rfl) ?_
  exact trivial

def deals : List Happening :=
  [⟨.destroy "acme", .ok ()⟩, ⟨.delete "acme", .ok true⟩, ⟨.secret, World.secretName 1⟩,
    ⟨.create "acme" (World.secretName 1), .ok "http://acme"⟩, ⟨.put FairWorld.latter, .ok ()⟩,
    ⟨.reach "acme" "http://acme", .ok ()⟩]

theorem follows_deals :
    Follows (fun _ access => (hosted.site.answer FairWorld.accepting access).1) deals := by
  rintro earlier h later same
  have answered : ∀ g ∈ deals, g.undated =
      ⟨g.access.undated, (hosted.site.answer FairWorld.accepting g.access.undated).1⟩ := by
    simp only [deals, List.forall_mem_cons]
    exact ⟨rfl, rfl, rfl, rfl, rfl, rfl, List.forall_mem_nil _⟩
  exact answered h (by rw [same]; simp)

theorem independent_of_others_when_busy :
    Orderly FairWorld.accepting FairWorld.estate "acme" hosted
      (hosted.play FairWorld.accepting busy).1 (hosted.play FairWorld.accepting busy).2 ∧
    Orderly FairWorld.accepting FairWorld.estate "acme" hosted
      (hosted.play FairWorld.accepting quiet).1 (hosted.play FairWorld.accepting quiet).2 ∧
    ⟨0, ⟨.fill FairWorld.former 0, false⟩⟩ ∈ (hosted.play FairWorld.accepting busy).1 ∧
    ⟨0, ⟨.fill FairWorld.former 0, true⟩⟩ ∈ (hosted.play FairWorld.accepting quiet).1 ∧
    told "acme" (hosted.play FairWorld.accepting busy).2 =
      told "acme" (hosted.play FairWorld.accepting quiet).2 ∧
    dealings "acme" (hosted.play FairWorld.accepting busy).2
      (hosted.play FairWorld.accepting busy).1 = deals := by
  have dealtBusy : dealings "acme" (hosted.play FairWorld.accepting busy).2
      (hosted.play FairWorld.accepting busy).1 = deals := rfl
  have dealtQuiet : dealings "acme" (hosted.play FairWorld.accepting quiet).2
      (hosted.play FairWorld.accepting quiet).1 = deals := rfl
  have retentive := FairWorld.accepting_dependable.retentive
  have independent := independent_of_others retentive retentive rfl rfl rfl rfl hosted_keyed
    hosted_keyed rfl (orderly_play busy_admitted) (orderly_play quiet_admitted)
    (unfailing_of_all rfl) (unfailing_of_all rfl) (dealtBusy ▸ follows_deals)
    (dealtQuiet ▸ follows_deals) rfl (List.all_eq_true.mp rfl)
  refine ⟨orderly_play busy_admitted, orderly_play quiet_admitted, ?_, ?_, ?_, dealtBusy⟩
  · exact List.mem_of_getElem? (i := 10) rfl
  · exact List.mem_of_getElem? (i := 4) rfl
  · exact (independent.2 (List.all_eq_true.mp rfl)).1

end Traffic
end Directory
end TenantRelay
