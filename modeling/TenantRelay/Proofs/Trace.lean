import TenantRelay.Site

/-!
What happens while an activity runs: its accesses in their order, each with what it
came back with and with the site just after it. Statements about a run speak of its
result, of what happened and of the site it ends in; those about an activity are put
together from those about its parts.
-/

namespace TenantRelay

structure Happening where
  access : Access
  answer : access.Answer

structure Moment (σ : Type) where
  happening : Happening
  after : Site σ

namespace Program

variable {α β : Type}

/-- An activity that, whatever it is answered, makes accesses of one sort only. -/
def Only (allowed : Access → Prop) : Program α → Prop
  | .done _ => True
  | .step access next => allowed access ∧ ∀ answer, Only allowed (next answer)

-- The induction is on the first activity: its answers decide which second one follows.
theorem only_bind {allowed : Access → Prop} {p : Program α} {f : α → Program β}
    (first : Only allowed p) (rest : ∀ a, Only allowed (f a)) : Only allowed (p >>= f) := by
  induction p with
  | done a => exact rest a
  | step access next ih => exact ⟨first.1, fun answer => ih answer (first.2 answer)⟩

theorem Only.mono {allowed wide : Access → Prop} {p : Program α} (only : Only allowed p)
    (wider : ∀ access, allowed access → wide access) : Only wide p := by
  induction p with
  | done a => trivial
  | step access next ih => exact ⟨wider access only.1, fun answer => ih answer (only.2 answer)⟩

theorem only_call {allowed : Access → Prop} {access : Access} {f : access.Answer → Program β}
    (fit : allowed access) (rest : ∀ answer, Only allowed (f answer)) :
    Only allowed (call access >>= f) :=
  ⟨fit, rest⟩

end Program

namespace Site

variable {σ α β : Type} (s : Surroundings σ)

def trace : Program α → Site σ → List (Moment σ)
  | .done _, _ => []
  | .step access next, site =>
    let (answer, after) := site.answer s access
    ⟨⟨access, answer⟩, after⟩ :: trace (next answer) after

def calls (p : Program α) (site : Site σ) : List Happening :=
  (trace s p site).map (·.happening)

theorem run_bind (p : Program α) (f : α → Program β) (site : Site σ) :
    run s (p >>= f) site = run s (f (run s p site).1) (run s p site).2 := by
  induction p generalizing site with
  | done a => rfl
  | step access next ih => exact ih _ _

theorem trace_bind (p : Program α) (f : α → Program β) (site : Site σ) :
    trace s (p >>= f) site =
      trace s p site ++ trace s (f (run s p site).1) (run s p site).2 := by
  induction p generalizing site with
  | done a => rfl
  | step access next ih =>
      exact congrArg (List.cons ⟨⟨access, (site.answer s access).1⟩, (site.answer s access).2⟩)
        (ih (site.answer s access).1 (site.answer s access).2)

theorem calls_bind (p : Program α) (f : α → Program β) (site : Site σ) :
    calls s (p >>= f) site =
      calls s p site ++ calls s (f (run s p site).1) (run s p site).2 := by
  simp only [calls, trace_bind, List.map_append]

theorem run_pure (a : α) (site : Site σ) : run s (pure a) site = (a, site) := rfl

theorem trace_pure (a : α) (site : Site σ) : trace s (pure a) site = [] := rfl

theorem run_ends (p : Program α) (site : Site σ) :
    (run s p site).2 = site ∨ ∃ m ∈ trace s p site, (run s p site).2 = m.after := by
  induction p generalizing site with
  | done a => exact Or.inl rfl
  | step access next ih =>
      right
      rcases ih (site.answer s access).1 (site.answer s access).2 with here | ⟨m, member, there⟩
      · exact ⟨⟨⟨access, _⟩, _⟩, List.mem_cons_self, here⟩
      · exact ⟨m, List.mem_cons_of_mem _ member, there⟩

theorem calls_only {allowed : Access → Prop} {p : Program α} (only : p.Only allowed)
    (site : Site σ) : ∀ h ∈ calls s p site, allowed h.access := by
  induction p generalizing site with
  | done a =>
      intro h member
      cases member
  | step access next ih =>
      intro h member
      rcases List.mem_cons.mp member with same | later
      · subst same; exact only.1
      · exact ih _ (only.2 _) _ h later

/-- What every access of an activity leaves as it is holds all the while it runs. -/
theorem trace_keeps (kept : Site σ → Prop) {allowed : Access → Prop} {p : Program α}
    (only : p.Only allowed)
    (keeps : ∀ access site, allowed access → kept site → kept (site.answer s access).2)
    {site : Site σ} (here : kept site) : ∀ m ∈ trace s p site, kept m.after := by
  induction p generalizing site with
  | done a =>
      intro m member
      cases member
  | step access next ih =>
      have after := keeps access site only.1 here
      intro m member
      rcases List.mem_cons.mp member with same | later
      · subst same; exact after
      · exact ih _ (only.2 _) after m later

/-- What holds of the result of a run, of what happens during it, and of the site it
ends in. -/
def Ensures (p : Program α) (site : Site σ)
    (post : α → List Happening → Site σ → Prop) : Prop :=
  post (run s p site).1 (calls s p site) (run s p site).2

variable {s} {site : Site σ} {post : α → List Happening → Site σ → Prop}

theorem Ensures.mono {p : Program α} {wide : α → List Happening → Site σ → Prop}
    (holds : Ensures s p site post) (wider : ∀ a hs after, post a hs after → wide a hs after) :
    Ensures s p site wide :=
  wider _ _ _ holds

theorem ensures_pure {a : α} (holds : post a [] site) : Ensures s (pure a) site post := holds

theorem ensures_bind {p : Program β} {f : β → Program α}
    (holds : Ensures s p site fun b first middle =>
      Ensures s (f b) middle fun a rest after => post a (first ++ rest) after) :
    Ensures s (p >>= f) site post := by
  unfold Ensures at holds ⊢
  rw [run_bind, calls_bind]
  exact holds

abbrev past (h : Happening) (post : α → List Happening → Site σ → Prop) :
    α → List Happening → Site σ → Prop :=
  fun a rest last => post a (h :: rest) last

theorem ensures_call {access : Access} {f : access.Answer → Program α}
    (holds : Ensures s (f (site.answer s access).1) (site.answer s access).2
      (past ⟨access, (site.answer s access).1⟩ post)) :
    Ensures s (Program.call access >>= f) site post :=
  holds

theorem ensures_last {access : Access} {post : access.Answer → List Happening → Site σ → Prop}
    (holds : Ensures s (Program.call access >>= pure) site post) :
    Ensures s (Program.call access) site post :=
  holds

end Site
end TenantRelay
