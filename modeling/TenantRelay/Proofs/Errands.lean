import TenantRelay.Proofs.Gauge

/-!
Calls of the directory, and what each is to be counted as. A call counts itself once, just
before it ends, and a lookup that emptied the cache is counted before anybody else comes to see
it. So whenever a call waits nothing stands out, and at its end it is counted as what it was.
-/

namespace TenantRelay

open Program

def Happening.emptied : Happening → Bool
  | ⟨.lookup _, .expired⟩ => true
  | _ => false

def Measure.reason? : Measure → Option String
  | refresh reason _ => some reason
  | _ => none

/-! What an activity counts by the time it waits, and by its end. -/

/-- A call that did this is entered under this measure, if any, and each of its lookups that
emptied the cache is entered too. -/
structure Fits (hs : List Happening) (entry : Option Measure) : Prop where
  calls : (measures hs).filter Measure.entersCall = entry.toList
  refreshes : (measures hs).filterMap Measure.reason? =
    List.replicate (hs.countP Happening.emptied) "ttl_expired"

def Access.isPlain : Access → Bool
  | lookup _ => false
  | count measure => !measure.entersCall && measure.reason?.isNone
  | _ => true

namespace Fits

variable {hs : List Happening} {entry : Option Measure}

theorem nil : Fits [] none := ⟨rfl, rfl⟩

theorem append_plain {h : Happening} (fits : Fits hs entry) (plain : h.access.isPlain = true) :
    Fits (hs ++ [h]) entry := by
  obtain ⟨access, answer⟩ := h
  have entered : (measures [⟨access, answer⟩]).filter Measure.entersCall = [] := by
    cases access with
    | count measure =>
        simp only [Access.isPlain, Bool.and_eq_true, Bool.not_eq_true'] at plain
        simp [measures, Happening.measure?, plain.1]
    | _ => rfl
  have refreshed : (measures [⟨access, answer⟩]).filterMap Measure.reason? = [] := by
    cases access with
    | count measure =>
        simp only [Access.isPlain, Bool.and_eq_true, Option.isNone_iff_eq_none] at plain
        simp [measures, Happening.measure?, plain.2]
    | _ => rfl
  have kept : Happening.emptied ⟨access, answer⟩ = false := by
    cases access with
    | lookup tenant => cases plain
    | _ => rfl
  constructor
  · rw [measures_append, List.filter_append, entered, List.append_nil, fits.calls]
  · rw [measures_append, List.filterMap_append, refreshed, List.append_nil, fits.refreshes]
    simp [List.countP_append, kept]

theorem enter {measure : Measure} (fits : Fits hs none) (enters : measure.entersCall = true) :
    Fits (hs ++ [⟨.count measure, ()⟩]) (some measure) := by
  have unrefreshed : measure.reason? = none := by
    cases measure with
    | refresh _ _ => cases enters
    | _ => rfl
  constructor
  · rw [measures_append, List.filter_append, fits.calls]
    simp [measures, Happening.measure?, enters]
  · rw [measures_append, List.filterMap_append, fits.refreshes]
    simp [measures, Happening.measure?, unrefreshed, List.countP_append, Happening.emptied]

end Fits

namespace Directory

/-- What a call is for, and whether somebody waits for it. A caller that stops waiting leaves a
call that nobody waits for. -/
inductive Errand where
  | resolve (tenant : String)
  | provision (tenant : String) (awaited : Bool)
  | deprovision (tenant : String) (awaited : Bool)

namespace Errand

abbrev Result : Errand → Type
  | resolve _ => Entry
  | provision _ _ => Entry
  | deprovision _ _ => Unit

def program : (e : Errand) → Program (Except DirectoryError e.Result)
  | resolve tenant => Directory.resolve tenant
  | provision tenant true => Directory.provision tenant
  | provision tenant false => register tenant
  | deprovision tenant true => Directory.deprovision tenant
  | deprovision tenant false => unregister tenant

end Errand

structure Job where
  errand : Errand
  did : List Happening
  rest : Program (Except DirectoryError errand.Result)

namespace Job

def opening (errand : Errand) : Job := ⟨errand, [], errand.program⟩

def asked (did : List Happening) : List Happening :=
  did.filter fun h => match h.access with
    | .lookup _ => true
    | .find _ => true
    | _ => false

inductive Judged {α : Type} : Except DirectoryError α → String → Prop where
  | success {a : α} : Judged (.ok a) "success"
  | stuck {tenant failure cause : String} :
      Judged (.error (.compensation tenant failure cause)) "compensation_failed"
  | failure {e : DirectoryError} :
      (∀ tenant failure cause, e ≠ .compensation tenant failure cause) →
      Judged (.error e) "failure"

/-- What a call is to be entered under, if anything. -/
inductive Booked : Job → Option Measure → Prop where
  | underWay {errand : Errand} {did : List Happening} {access : Access}
      {next : access.Answer → Program (Except DirectoryError errand.Result)} :
      Booked ⟨errand, did, .step access next⟩ none
  | hit {tenant : String} {did : List Happening} {entry : Entry} :
      asked did = [⟨.lookup tenant, .hit entry⟩] →
      Booked ⟨.resolve tenant, did, .done (.ok entry)⟩ (some (.lookup "hit"))
  | miss {tenant : String} {did : List Happening} {found : Lookup} {entry : Entry} :
      asked did = [⟨.lookup tenant, found⟩, ⟨.find tenant, .ok (some entry)⟩] →
      Booked ⟨.resolve tenant, did, .done (.ok entry)⟩ (some (.lookup "miss"))
  | absent {tenant : String} {did : List Happening} {found : Lookup} :
      asked did = [⟨.lookup tenant, found⟩, ⟨.find tenant, .ok none⟩] →
      Booked ⟨.resolve tenant, did, .done (.error (.notFound tenant))⟩
        (some (.lookup "not_found"))
  | failed {tenant : String} {did : List Happening} {found : Lookup} {e : DirectoryError} :
      asked did = [⟨.lookup tenant, found⟩, ⟨.find tenant, .error e⟩] →
      Booked ⟨.resolve tenant, did, .done (.error e)⟩ none
  | provisioned {tenant outcome : String} {did : List Happening}
      {result : Except DirectoryError Entry} : Judged result outcome →
      Booked ⟨.provision tenant true, did, .done result⟩
        (some (.provisioning "provision" outcome))
  | deprovisioned {tenant outcome : String} {did : List Happening}
      {result : Except DirectoryError Unit} : Judged result outcome →
      Booked ⟨.deprovision tenant true, did, .done result⟩
        (some (.provisioning "deprovision" outcome))
  | leftProvisioning {tenant : String} {did : List Happening}
      {result : Except DirectoryError Entry} :
      Booked ⟨.provision tenant false, did, .done result⟩ none
  | leftDeprovisioning {tenant : String} {did : List Happening}
      {result : Except DirectoryError Unit} :
      Booked ⟨.deprovision tenant false, did, .done result⟩ none

theorem judged_outcomeOf {α : Type} (result : Except DirectoryError α) :
    Judged result (outcomeOf result) := by
  cases result with
  | ok a => exact .success
  | error e =>
      cases e with
      | compensation _ _ _ => exact .stuck
      | _ => exact .failure fun _ _ _ same => by cases same

theorem asked_append (did more : List Happening) : asked (did ++ more) = asked did ++ asked more :=
  List.filter_append did more

def Rule (past : List Happening) (access : Access) : Prop :=
  access.waits = true → Fits past none

def Ends (errand : Errand) (past : List Happening)
    (result : Except DirectoryError errand.Result) : Prop :=
  ∃ entry, Booked ⟨errand, past, .done result⟩ entry ∧ Fits past entry

variable {tenant : String} {past : List Happening}

theorem free {access : Access} (goes : access.waits = false) : Rule past access :=
  fun waits => by rw [goes] at waits; cases waits

theorem readStore_obeys_rule {found : Lookup} (fits : Fits past none)
    (looked : asked past = [⟨.lookup tenant, found⟩]) :
    (readStore tenant).Obeys Rule (Ends (.resolve tenant)) past := by
  unfold readStore
  apply obeys_call (free rfl)
  intro generation
  have before := fits.append_plain (h := ⟨.generation, generation⟩) rfl
  -- The store is the one thing waited for, and nothing was entered before it.
  apply obeys_call fun _ => before
  intro stored
  have after := before.append_plain (h := ⟨.find tenant, stored⟩) rfl
  cases stored with
  | error e => exact ⟨none, .failed (by simp only [asked_append, looked]; rfl), after⟩
  | ok stored =>
      cases stored with
      | none =>
          apply obeys_call (free rfl)
          intro _
          exact ⟨_, .absent (by simp only [asked_append, looked]; rfl), after.enter rfl⟩
      | some entry =>
          apply obeys_call (free rfl)
          intro _
          have entered : Fits _ (some (.lookup "miss")) := after.enter rfl
          apply obeys_call (free rfl)
          intro kept
          have filled := entered.append_plain (h := ⟨.fill entry generation, kept⟩) rfl
          cases kept with
          | false => exact ⟨_, .miss (by simp only [asked_append, looked]; rfl), filled⟩
          | true =>
              apply obeys_call (free rfl)
              intro size
              have counted := filled.append_plain (h := ⟨.cachedCount, size⟩) rfl
              apply obeys_call (free rfl)
              intro _
              exact ⟨_, .miss (by simp only [asked_append, looked]; rfl), counted.append_plain rfl⟩

theorem resolve_obeys_rule :
    (resolve tenant).Obeys Rule (Ends (.resolve tenant)) [] := by
  unfold resolve
  apply obeys_call (free rfl)
  intro found
  cases found with
  | hit entry =>
      apply obeys_call (free rfl)
      intro _
      exact ⟨_, .hit rfl, rfl, rfl⟩
  | miss => exact readStore_obeys_rule ⟨rfl, rfl⟩ rfl
  | expired =>
      -- One lookup emptied the cache, and one refresh stands for it.
      apply obeys_call (free rfl)
      intro _
      exact readStore_obeys_rule ⟨rfl, rfl⟩ rfl

theorem obeys_of_plain {α : Type} {p : Program α} {ends : List Happening → α → Prop}
    (plain : p.Only (·.isPlain = true)) (lasts : ∀ past a, Fits past none → ends past a)
    (fits : Fits past none) : p.Obeys Rule ends past := by
  induction p generalizing past with
  | done a => exact lasts past a fits
  | step access next ih =>
      exact ⟨fun _ => fits, fun answer => ih answer (plain.2 answer) (fits.append_plain plain.1)⟩

theorem plain_call {α : Type} {access : Access} {f : access.Answer → Program α}
    (plain : access.isPlain = true) (rest : ∀ answer, (f answer).Only (·.isPlain = true)) :
    (call access >>= f).Only (·.isPlain = true) :=
  ⟨plain, rest⟩

theorem undoCreate_plain {failure : DirectoryError} :
    (undoCreate tenant failure).Only (·.isPlain = true) := by
  unfold undoCreate
  apply plain_call rfl
  intro gone
  cases gone with
  | ok _ => trivial
  | error e => cases known : e.isNotFound <;> simp only [known] <;> trivial

theorem register_plain : (register tenant).Only (·.isPlain = true) := by
  unfold register
  apply plain_call rfl
  intro secret
  apply plain_call rfl
  intro created
  cases created with
  | error e => trivial
  | ok address =>
      apply plain_call rfl
      intro now
      apply plain_call rfl
      intro stored
      cases stored with
      | error e => exact undoCreate_plain
      | ok _ =>
          apply plain_call rfl
          intro reached
          cases reached with
          | error e =>
              apply plain_call rfl
              intro deleted
              cases deleted with
              | error cleanup => trivial
              | ok had => exact undoCreate_plain
          | ok _ =>
              apply plain_call rfl
              intro _
              exact plain_call rfl fun size => plain_call rfl fun _ => trivial

theorem forget_plain : (forget tenant).Only (·.isPlain = true) := by
  unfold forget
  apply plain_call rfl
  intro deleted
  cases deleted with
  | error e => trivial
  | ok had =>
      apply plain_call rfl
      intro _
      exact plain_call rfl fun size => plain_call rfl fun _ => trivial

theorem unregister_plain : (unregister tenant).Only (·.isPlain = true) := by
  unfold unregister
  apply plain_call rfl
  intro gone
  cases gone with
  | ok _ => exact forget_plain
  | error e =>
      cases known : e.isNotFound with
      | true =>
          simp only [known, ↓reduceIte]
          exact forget_plain
      | false =>
          simp only [known, Bool.false_eq_true, ↓reduceIte]
          trivial

theorem counted_obeys_rule {α : Type} {operation : String}
    {work : Program (Except DirectoryError α)}
    {ends : List Happening → Except DirectoryError α → Prop}
    (plain : work.Only (·.isPlain = true))
    (lasts : ∀ past result, Fits past (some (.provisioning operation (outcomeOf result))) →
      ends past result) :
    (counted operation work).Obeys Rule ends [] := by
  unfold counted
  apply obeys_bind (obeys_of_plain plain (fun past result fits => fits) .nil)
  intro past result fits
  exact obeys_call (free rfl) fun _ => lasts _ _ (fits.enter rfl)

theorem program_obeys_rule (errand : Errand) :
    errand.program.Obeys Rule (Ends errand) [] := by
  cases errand with
  | resolve tenant => exact resolve_obeys_rule
  | provision tenant awaited =>
      cases awaited with
      | true =>
          apply counted_obeys_rule register_plain
          intro past result fits
          exact ⟨_, .provisioned (judged_outcomeOf result), fits⟩
      | false =>
          apply obeys_of_plain register_plain _ .nil
          intro past result fits
          exact ⟨none, .leftProvisioning, fits⟩
  | deprovision tenant awaited =>
      cases awaited with
      | true =>
          apply counted_obeys_rule unregister_plain
          intro past result fits
          exact ⟨_, .deprovisioned (judged_outcomeOf result), fits⟩
      | false =>
          apply obeys_of_plain unregister_plain _ .nil
          intro past result fits
          exact ⟨none, .leftDeprovisioning, fits⟩

variable {σ : Type} (s : Surroundings σ)

def goOn (job : Job) (site : Site σ) : Job × Site σ :=
  (⟨job.errand, job.did ++ site.during s job.rest, (site.stretch s job.rest).1⟩,
    (site.stretch s job.rest).2)

/-- What holds of a call whenever it waits, and when it has ended. -/
structure Sound (job : Job) : Prop where
  obeys : job.rest.Obeys Rule (Ends job.errand) job.did
  waiting : ∀ access next, job.rest = .step access next → Fits job.did none
  upholds : ∀ site : Site σ, site.Gauged → site.Upholds s Site.Gauged job.rest

variable {s}

theorem program_upholds (errand : Errand) {site : Site σ} (gauged : site.Gauged) :
    site.Upholds s Site.Gauged errand.program := by
  cases errand with
  | resolve tenant => exact resolve_upholds gauged
  | provision tenant awaited =>
      cases awaited with
      | true => exact counted_upholds (register_upholds gauged)
      | false => exact register_upholds gauged
  | deprovision tenant awaited =>
      cases awaited with
      | true => exact counted_upholds (unregister_upholds gauged)
      | false => exact unregister_upholds gauged

theorem sound_opening (errand : Errand) : (opening errand).Sound s where
  obeys := program_obeys_rule errand
  waiting _ _ _ := .nil
  upholds _ gauged := program_upholds errand gauged

theorem Sound.goOn {job : Job} {site : Site σ} (sound : job.Sound s) (gauged : site.Gauged) :
    (job.goOn s site).1.Sound s ∧ (job.goOn s site).2.Gauged := by
  have upheld := Site.upholds_stretch (sound.upholds site gauged)
  constructor
  · constructor
    · exact Site.obeys_stretch sound.obeys site
    · intro access next left
      obtain ⟨before, ⟨access', answer⟩, did, waits, fits⟩ :=
        Site.exists_of_stretch sound.obeys site left
      -- The access that is waited for enters nothing itself.
      have plain : access'.isPlain = true := by
        cases access' with
        | lookup _ => cases waits
        | count _ => cases waits
        | _ => rfl
      show Fits (job.did ++ site.during s job.rest) none
      rw [did]
      exact (fits waits).append_plain plain
    · exact upheld.2
  · exact upheld.1

theorem Sound.exists_booked {job : Job} (sound : job.Sound s) :
    ∃ entry, Booked job entry ∧ Fits job.did entry := by
  obtain ⟨errand, did, rest⟩ := job
  cases rest with
  | done result => exact sound.obeys
  | step access next => exact ⟨none, .underWay, sound.waiting access next rfl⟩

end Job

end Directory
end TenantRelay
