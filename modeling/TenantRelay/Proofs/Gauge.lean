import TenantRelay.Proofs.Stretches

/-!
The number of cached entries that is shown. The cache changes in several places, and each time
the number is set before anybody else comes to see it. So it is right whenever an activity of
the directory waits, and at its end.
-/

namespace TenantRelay

open Program

theorem Cache.lookup_cases (c : Cache) (now : Nat) (tenant : String) :
    c.lookup now tenant = (.expired, c.clear) ∨ c.lookup now tenant = (.miss, c) ∨
      ∃ entry, c.lookup now tenant = (.hit entry, c) := by
  unfold Cache.lookup Cache.peek
  split
  · exact Or.inl rfl
  · cases c.entries.find? tenant with
    | none => exact Or.inr (Or.inl rfl)
    | some entry => exact Or.inr (Or.inr ⟨entry, rfl⟩)

theorem Cache.lookup_eq_expired_iff (c : Cache) (now : Nat) (tenant : String) :
    (c.lookup now tenant).1 = .expired ↔ (c.lookup now tenant).2 = c.clear := by
  -- Emptying starts a new generation, so it never leaves a cache as it was.
  have renewed : c ≠ c.clear := by
    intro same
    have := congrArg Cache.generation same
    simp [Cache.clear] at this
  rcases c.lookup_cases now tenant with looked | looked | ⟨entry, looked⟩
  · simp [looked]
  · simp [looked, renewed]
  · simp [looked, renewed]

def Measure.entersCall : Measure → Bool
  | lookup _ => true
  | provisioning _ _ => true
  | _ => false

/-- The number of cached entries that is shown is the one that there is. -/
def Site.Gauged {σ : Type} (site : Site σ) : Prop :=
  ∃ m, site.metrics = some m ∧ m.cached = site.cache.size

namespace Site

variable {σ α : Type} {s : Surroundings σ} {site : Site σ}

theorem gauged_answer {access : Access} (waits : access.waits = true) (gauged : site.Gauged) :
    (site.answer s access).2.Gauged := by
  cases access with
  | find _ | put _ | delete _ | create _ _ | reach _ _ | destroy _ | post _ | outbound _ _
  | inbound _ _ _ => exact gauged
  | _ => cases waits

theorem gauged_count {measure : Measure} (enters : measure.entersCall = true)
    (gauged : site.Gauged) : (site.answer s (.count measure)).2.Gauged := by
  obtain ⟨m, metered, level⟩ := gauged
  refine ⟨measure.apply m, congrArg (Option.map measure.apply) metered, ?_⟩
  cases measure with
  | lookup _ | provisioning _ _ => exact level
  | _ => cases enters

theorem upholds_outside {access : Access} {f : access.Answer → Program α}
    (waits : access.waits = true) (gauged : site.Gauged)
    (rest : ∀ answer other, other.Gauged → Upholds s Gauged (f answer) other) :
    Upholds s Gauged (Program.call access >>= f) site :=
  upholds_waiting waits (gauged_answer waits gauged) rest

theorem upholds_recount {cache : Cache} (a : α) (gauged : site.Gauged) :
    Upholds s Gauged (do call (.count (.cached (← call .cachedCount))); return a)
      { site with cache } := by
  obtain ⟨m, metered, _⟩ := gauged
  apply upholds_going rfl
  apply upholds_going rfl
  exact ⟨m.recordCached cache.size, congrArg (Option.map _) metered, rfl⟩

end Site

namespace Directory

section
variable {σ : Type} {s : Surroundings σ} {site : Site σ} {tenant : String}

theorem readStore_upholds (gauged : site.Gauged) :
    Site.Upholds s Site.Gauged (readStore tenant) site := by
  unfold readStore
  apply Site.upholds_going rfl
  apply Site.upholds_outside rfl gauged
  intro found other gauged
  cases found with
  | error e => exact gauged
  | ok found =>
      cases found with
      | none =>
          apply Site.upholds_going rfl
          exact Site.gauged_count rfl gauged
      | some entry =>
          apply Site.upholds_going rfl
          have counted : (other.answer s (.count (.lookup "miss"))).2.Gauged :=
            Site.gauged_count rfl gauged
          generalize (other.answer s (.count (.lookup "miss"))).2 = later at counted ⊢
          apply Site.upholds_going rfl
          simp only [Site.answer, Cache.fill]
          by_cases current : later.cache.generation = site.cache.generation
          · -- The entry is let in, and the number is set at once.
            simp only [current, ↓reduceIte]
            exact Site.upholds_recount _ counted
          · -- A fill that comes too late changes nothing.
            simp only [current, ↓reduceIte, Bool.false_eq_true]
            exact counted

theorem resolve_upholds (gauged : site.Gauged) :
    Site.Upholds s Site.Gauged (resolve tenant) site := by
  unfold resolve
  apply Site.upholds_going rfl
  simp only [Site.answer]
  rcases site.cache.lookup_cases (s.clock site.outside) tenant with looked | looked | ⟨entry, looked⟩
  · rw [looked]
    apply Site.upholds_going rfl
    -- What is shown is set to none, which is right for a cache that was emptied.
    obtain ⟨m, metered, _⟩ := gauged
    exact readStore_upholds ⟨m.recordRefresh "ttl_expired" 0, congrArg (Option.map _) metered, rfl⟩
  · rw [looked]
    exact readStore_upholds gauged
  · rw [looked]
    apply Site.upholds_going rfl
    exact Site.gauged_count rfl gauged

theorem undoCreate_upholds {failure : DirectoryError} (gauged : site.Gauged) :
    Site.Upholds s Site.Gauged (undoCreate tenant failure) site := by
  unfold undoCreate
  apply Site.upholds_outside rfl gauged
  intro gone other gauged
  cases gone with
  | ok _ => exact gauged
  | error e =>
      cases known : e.isNotFound with
      | true =>
          simp only [known, ↓reduceIte]
          exact gauged
      | false =>
          simp only [known, Bool.false_eq_true, ↓reduceIte]
          exact gauged

theorem register_upholds (gauged : site.Gauged) :
    Site.Upholds s Site.Gauged (register tenant) site := by
  unfold register
  apply Site.upholds_going rfl
  have drawn : (site.answer s .secret).2.Gauged := gauged
  apply Site.upholds_outside rfl drawn
  intro created other gauged
  cases created with
  | error e => exact gauged
  | ok address =>
      apply Site.upholds_going rfl
      apply Site.upholds_outside rfl gauged
      intro stored other gauged
      cases stored with
      | error e => exact undoCreate_upholds gauged
      | ok _ =>
          apply Site.upholds_outside rfl gauged
          intro reached other gauged
          cases reached with
          | error e =>
              apply Site.upholds_outside rfl gauged
              intro deleted other gauged
              cases deleted with
              | error cleanup => exact gauged
              | ok had => exact undoCreate_upholds gauged
          | ok _ =>
              -- Only here the cache changes. All that went wrong before left it alone.
              apply Site.upholds_going rfl
              exact Site.upholds_recount _ gauged

theorem forget_upholds (gauged : site.Gauged) :
    Site.Upholds s Site.Gauged (forget tenant) site := by
  unfold forget
  apply Site.upholds_outside rfl gauged
  intro deleted other gauged
  cases deleted with
  | error e => exact gauged
  | ok had =>
      apply Site.upholds_going rfl
      exact Site.upholds_recount _ gauged

theorem unregister_upholds (gauged : site.Gauged) :
    Site.Upholds s Site.Gauged (unregister tenant) site := by
  unfold unregister
  apply Site.upholds_outside rfl gauged
  intro gone other gauged
  cases gone with
  | ok _ => exact forget_upholds gauged
  | error e =>
      cases known : e.isNotFound with
      | true =>
          simp only [known, ↓reduceIte]
          exact forget_upholds gauged
      | false =>
          simp only [known, Bool.false_eq_true, ↓reduceIte]
          exact gauged

theorem counted_upholds {α : Type} {operation : String}
    {work : Program (Except DirectoryError α)}
    (worked : Site.Upholds s Site.Gauged work site) :
    Site.Upholds s Site.Gauged (counted operation work) site := by
  unfold counted
  apply Site.upholds_bind worked
  intro result other gauged
  apply Site.upholds_going rfl
  exact Site.gauged_count rfl gauged

end

end Directory

end TenantRelay
