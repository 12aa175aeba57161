import TenantRelay.Proofs.Conduct

/-!
Activities that give way to others only where they wait. Between two waits an activity is
alone with the site, so what it changes in several accesses is seen by the others as one
change: it goes on from wait to wait in stretches.
-/

namespace TenantRelay

/-- Accesses that leave the relay. Others may go on until such an access is answered. -/
def Access.waits : Access → Bool
  | find _ => true
  | put _ => true
  | delete _ => true
  | create _ _ => true
  | reach _ _ => true
  | destroy _ => true
  | post _ => true
  | outbound _ _ => true
  | inbound _ _ _ => true
  | _ => false

def Happening.measure? : Happening → Option Measure
  | ⟨.count measure, _⟩ => some measure
  | _ => none

def measures (hs : List Happening) : List Measure := hs.filterMap Happening.measure?

theorem measures_append (hs more : List Happening) :
    measures (hs ++ more) = measures hs ++ measures more := by
  simp [measures]

theorem measures_cons (h : Happening) (hs : List Happening) :
    measures (h :: hs) = measures [h] ++ measures hs :=
  measures_append [h] hs

def Metrics.counting (m : Metrics) (ms : List Measure) : Metrics :=
  ms.foldl (fun m measure => measure.apply m) m

namespace Site

variable {σ α β : Type} (s : Surroundings σ)

def callsPast (stop : (access : Access) → access.Answer → Bool) :
    Program α → Site σ → List Happening
  | .done _, _ => []
  | .step access next, site =>
    let (answer, after) := site.answer s access
    if stop access answer then [⟨access, answer⟩]
    else ⟨access, answer⟩ :: callsPast stop (next answer) after

/-- What is left of an activity after a stretch of it, and where the stretch leads. -/
def stretch (p : Program α) (site : Site σ) : Program α × Site σ :=
  runPast s (fun access _ => access.waits) p site

def during (p : Program α) (site : Site σ) : List Happening :=
  callsPast s (fun access _ => access.waits) p site

section
variable {s} {access : Access} {next : access.Answer → Program α} {site : Site σ}

theorem stretch_waiting (waits : access.waits = true) :
    stretch s (.step access next) site =
      (next (site.answer s access).1, (site.answer s access).2) := by
  simp [stretch, runPast, waits]

theorem stretch_going (goes : access.waits = false) :
    stretch s (.step access next) site =
      stretch s (next (site.answer s access).1) (site.answer s access).2 := by
  simp [stretch, runPast, goes]

theorem during_waiting (waits : access.waits = true) :
    during s (.step access next) site = [⟨access, (site.answer s access).1⟩] := by
  simp [during, callsPast, waits]

theorem during_going (goes : access.waits = false) :
    during s (.step access next) site =
      ⟨access, (site.answer s access).1⟩ ::
        during s (next (site.answer s access).1) (site.answer s access).2 := by
  simp [during, callsPast, goes]

end

/-! What a stretch keeps of the rules of an activity. -/

section
variable {s} {p : Program α} {past : List Happening} {next : List Happening → Access → Prop}
  {ends : List Happening → α → Prop}

-- The induction is on the activity. A stretch ends at the first access that waits, so what comes
-- before it only adds to the past.
theorem obeys_stretch (obeys : p.Obeys next ends past) (site : Site σ) :
    (stretch s p site).1.Obeys next ends (past ++ during s p site) := by
  induction p generalizing past site with
  | done a =>
      simpa [stretch, during, runPast, callsPast] using obeys
  | step access rest ih =>
      cases waits : access.waits with
      | true =>
          rw [stretch_waiting waits, during_waiting waits]
          exact obeys.2 _
      | false =>
          rw [stretch_going waits, during_going waits, List.append_cons]
          exact ih _ (obeys.2 _) _

theorem exists_of_stretch (obeys : p.Obeys next ends past) (site : Site σ) {access : Access}
    {rest : access.Answer → Program α} (left : (stretch s p site).1 = .step access rest) :
    ∃ before h, past ++ during s p site = before ++ [h] ∧ h.access.waits = true ∧
      next before h.access := by
  induction p generalizing past site with
  | done a => cases left
  | step other following ih =>
      cases waits : other.waits with
      | true =>
          rw [during_waiting waits]
          exact ⟨past, _, rfl, waits, obeys.1⟩
      | false =>
          rw [stretch_going waits] at left
          rw [during_going waits, List.append_cons]
          exact ih _ (obeys.2 _) _ left

end

/-! What holds whenever an activity waits, and at its end. -/

/-- An activity that leaves a property of sites as it found it at each of its waits and at
its end, whatever the others do to the site while it waits if they keep the property too. -/
def Upholds (kept : Site σ → Prop) : Program α → Site σ → Prop
  | .done _, site => kept site
  | .step access next, site =>
    let (answer, after) := site.answer s access
    if access.waits then kept after ∧ ∀ other, kept other → Upholds kept (next answer) other
    else Upholds kept (next answer) after

variable {s} {kept : Site σ → Prop} {site : Site σ}

theorem upholds_waiting {access : Access} {f : access.Answer → Program α}
    (waits : access.waits = true) (after : kept (site.answer s access).2)
    (rest : ∀ answer other, kept other → Upholds s kept (f answer) other) :
    Upholds s kept (Program.call access >>= f) site := by
  show Upholds s kept (.step access f) site
  simp only [Upholds, waits, ↓reduceIte]
  exact ⟨after, rest _⟩

theorem upholds_going {access : Access} {f : access.Answer → Program α}
    (goes : access.waits = false)
    (rest : Upholds s kept (f (site.answer s access).1) (site.answer s access).2) :
    Upholds s kept (Program.call access >>= f) site := by
  show Upholds s kept (.step access f) site
  simpa [Upholds, goes] using rest

-- Where the first activity ends the property holds, which is all that the second one asks for.
theorem upholds_bind {p : Program α} {f : α → Program β} (first : Upholds s kept p site)
    (rest : ∀ a other, kept other → Upholds s kept (f a) other) :
    Upholds s kept (p >>= f) site := by
  induction p generalizing site with
  | done a => exact rest a site first
  | step access next ih =>
      show Upholds s kept (.step access fun answer => next answer >>= f) site
      cases waits : access.waits with
      | true =>
          simp only [Upholds, waits, ↓reduceIte] at first ⊢
          exact ⟨first.1, fun other held => ih _ (first.2 other held)⟩
      | false =>
          simp only [Upholds, waits, Bool.false_eq_true, ↓reduceIte] at first ⊢
          exact ih _ first

theorem upholds_stretch {p : Program α} (upholds : Upholds s kept p site) :
    kept (stretch s p site).2 ∧
      ∀ other, kept other → Upholds s kept (stretch s p site).1 other := by
  induction p generalizing site with
  | done a => exact ⟨upholds, fun other held => held⟩
  | step access next ih =>
      cases waits : access.waits with
      | true =>
          rw [stretch_waiting waits]
          simpa [Upholds, waits] using upholds
      | false =>
          rw [stretch_going waits]
          simp only [Upholds, waits, Bool.false_eq_true, ↓reduceIte] at upholds
          exact ih _ upholds

/-! What a stretch counts. -/

theorem metrics_answer (access : Access) (site : Site σ) :
    (site.answer s access).2.metrics =
      site.metrics.map (·.counting (measures [⟨access, (site.answer s access).1⟩])) := by
  cases access with
  | count measure => rfl
  | _ => exact Option.map_id'.symm

theorem metrics_stretch (p : Program α) (site : Site σ) :
    (stretch s p site).2.metrics = site.metrics.map (·.counting (measures (during s p site))) := by
  induction p generalizing site with
  | done a => exact Option.map_id'.symm
  | step access next ih =>
      cases waits : access.waits with
      | true =>
          rw [stretch_waiting waits, during_waiting waits]
          exact metrics_answer access site
      | false =>
          rw [stretch_going waits, during_going waits, ih, metrics_answer,
            measures_cons ⟨access, _⟩ (during s _ _)]
          simp only [Option.map_map, Function.comp_def, Metrics.counting, List.foldl_append]

end Site
end TenantRelay
