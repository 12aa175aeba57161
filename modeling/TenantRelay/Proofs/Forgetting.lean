import TenantRelay.Proofs.Generations

/-!
A tenant who is deprovisioned while nobody is provisioned is forgotten for good. The
entry is deleted before the cache lets go of it, so whoever still found it read the
generation too early, and whoever reads the generation in time finds nothing. There are two
ways around it: the entry may be stored under a second name too, and a lookup may be under way
for so long that its generation comes round.
-/

namespace TenantRelay.Directory

namespace Traffic

variable {σ : Type} {s : Surroundings σ} {view : σ → Estate} {failing : DirectoryError → Prop}
  {start middle x : Traffic σ} {turns before after earlier later : List Turn} {tenant : String}
  {entry : Entry} {call : Nat} {had : Bool} {soFar next log : List Stage}

section
variable (idle : start.calls = [])
include idle

/-! While nobody is provisioned, nothing is put or kept, and what is deleted stays deleted. -/

theorem Run.put_notMem {answer : Except DirectoryError Unit}
    (run : Run s view Operation.MakesNone start turns x) :
    ⟨call, ⟨.put entry, answer⟩⟩ ∉ turns := by
  intro member
  obtain ⟨earlier, later, rfl⟩ := List.append_of_mem member
  obtain ⟨there, _⟩ := run.of_put (fresh_of_calls [] idle) id
  rw [operation?_of_calls [] idle] at there
  cases there

theorem Run.keep_notMem (run : Run s view Operation.MakesNone start turns x) :
    ⟨call, ⟨.keep entry, ()⟩⟩ ∉ turns := by
  intro member
  obtain ⟨earlier, later, rfl⟩ := List.append_of_mem member
  obtain ⟨there, _⟩ := run.of_keep (fresh_of_calls [] idle) id
  rw [operation?_of_calls [] idle] at there
  cases there

variable (d : Dependable s view failing)
include d

theorem Run.stored_of_deleted (run : Run s view Operation.MakesNone start turns x)
    (deleted : ⟨call, ⟨.delete tenant, .ok had⟩⟩ ∈ turns) :
    (view x.site.outside).stored tenant = none := by
  apply Classical.byContradiction
  intro stored
  obtain ⟨earlier, later, rfl⟩ := List.append_of_mem deleted
  obtain ⟨y, z, _, turned, after⟩ := run.cut
  rcases after.stored_until d (Q := (· = none)) (turned.deleted d) stored with
    ⟨_, _, _, put, _⟩ | ⟨_, _, _, still⟩
  · exact run.put_notMem idle (List.mem_append_right _ (List.mem_cons_of_mem _ put))
  · exact still rfl

theorem Run.not_found_of_deleted {held : Option Entry}
    (run : Run s view Operation.MakesNone start (turns ++ later) x)
    (deleted : ⟨call, ⟨.delete tenant, .ok had⟩⟩ ∈ turns) {reader : Nat}
    (found : ⟨reader, ⟨.find tenant, .ok held⟩⟩ ∈ later) : held = none := by
  obtain ⟨between, rest, rfl⟩ := List.append_of_mem found
  rw [← List.append_assoc] at run
  obtain ⟨y, z, before, turned, _⟩ := run.cut
  rw [← (turned.found d).1]
  exact before.stored_of_deleted idle d (List.mem_append_left _ deleted)

theorem Logged.cached_of_forgotten (files : (view start.site.outside).Files tenant) {known : Bool}
    (logged : Logged s view Operation.MakesNone start
      (soFar ++ .turn ⟨call, ⟨.forget tenant, known⟩⟩ :: next) x)
    (brief : Brief (soFar ++ .turn ⟨call, ⟨.forget tenant, known⟩⟩ :: next))
    (deleted : ⟨call, ⟨.delete tenant, .ok had⟩⟩ ∈ turnsOf soFar) :
    x.site.cache.entries.find? tenant = none := by
  have run := logged.run
  rw [turnsOf_append] at run
  apply Classical.byContradiction
  intro lasting
  obtain ⟨entry, cached⟩ := Option.ne_none_iff_exists'.mp lasting
  obtain ⟨own, caller, kept | found⟩ :=
    logged.refilled d (fresh_of_calls [] idle) files brief cached
  · exact run.keep_notMem idle (List.mem_append_right _ (List.mem_cons_of_mem _ kept))
  · have absent := run.not_found_of_deleted idle d deleted (List.mem_cons_of_mem _ found)
    cases absent

/-- Once a deprovision has ended well, the tenant is never in the cache again, whatever
lookups and other deprovisions are under way, and who is resolved from then on is not found
unless the store fails to be read. -/
theorem forgotten_for_good (files : (view start.site.outside).Files tenant)
    (before : Logged s view Operation.MakesNone start soFar middle)
    (returned : middle.calls[call]? = some ⟨.deprovision tenant, .done (.ok ())⟩)
    (going : Logged s view Operation.MakesNone middle next x) (brief : Brief (soFar ++ next)) :
    x.site.cache.entries.find? tenant = none ∧
    ∀ own result, middle.calls.length ≤ own →
      x.calls[own]? = some ⟨.resolve tenant, .done result⟩ →
      result = .error (.notFound tenant) ∨
        ∃ e, result = .error e ∧ .turn ⟨own, ⟨.find tenant, .error e⟩⟩ ∈ next := by
  have fresh := fresh_of_calls [] idle
  obtain ⟨earlier, later, known, had, rfl, deleted⟩ := before.exists_forget fresh returned
  -- What is said of the cache holds of every state on the way, too.
  have uncached : ∀ {more y}, Logged s view Operation.MakesNone middle more y →
      more <+: next → y.site.cache.entries.find? tenant = none := by
    rintro more y soon ⟨rest, rfl⟩
    have whole := before.trans soon
    have short := (List.append_assoc _ more rest ▸ brief).of_append
    rw [List.append_assoc, List.cons_append] at whole short
    exact whole.cached_of_forgotten idle d files short deleted
  refine ⟨uncached going List.prefix_rfl, ?_⟩
  intro own result opened ended
  have run := (before.trans going).run
  rw [turnsOf_append] at run
  have resolved : Resolved tenant (past _ own) result := run.ended fresh ended
  rw [past_append, before.run.past_eq_nil opened, List.nil_append] at resolved
  cases resolved with
  | hit hit =>
      obtain ⟨between, rest, rfl⟩ := List.append_of_mem (mem_turnsOf.mp (mem_past.mp hit))
      obtain ⟨y, z, more, turned, _⟩ := going.cut
      have cached := turned.hit
      rw [uncached more (List.prefix_append _ _)] at cached
      cases cached
  | read found =>
      rw [turnsOf_append] at run
      have absent := run.not_found_of_deleted idle d (List.mem_append_left _ deleted)
        (mem_past.mp found)
      cases absent
  | absent _ => exact Or.inl rfl
  | failed failed => exact Or.inr ⟨_, rfl, mem_turnsOf.mp (mem_past.mp failed)⟩

end

open FairWorld (former)

def overtaken : List Turn × Traffic FairWorld :=
  -- A lookup has found the entry but not filled it in when the tenant is deprovisioned.
  play FairWorld.accepting
    (.opening (.resolve "acme") :: List.replicate 4 (.turn 0) ++
      .opening (.deprovision "acme") :: List.replicate 6 (.turn 1))
    ⟨{ outside := .hosting former }, []⟩

def catchingUp : List Move :=
  List.replicate 3 (.turn 0) ++ .opening (.resolve "acme") :: List.replicate 4 (.turn 2)

def caughtUp : List Turn × Traffic FairWorld := play FairWorld.accepting catchingUp overtaken.2

theorem overtaken_logged : Logged FairWorld.accepting FairWorld.estate Operation.MakesNone
    ⟨{ outside := .hosting former }, []⟩ (overtaken.1.map .turn) overtaken.2 :=
  logged_play (by simp [Operation.MakesNone]) _

theorem forgotten_for_good_when_overtaken :
    overtaken.2.calls[1]? = some ⟨.deprovision "acme", .done (.ok ())⟩ ∧
    caughtUp.2.calls[0]? = some ⟨.resolve "acme", .done (.ok former)⟩ ∧
    caughtUp.2.calls[2]? = some ⟨.resolve "acme", .done (.error (.notFound "acme"))⟩ ∧
    caughtUp.2.site.cache.entries.find? "acme" = none ∧
    ∀ own result, overtaken.2.calls.length ≤ own →
      caughtUp.2.calls[own]? = some ⟨.resolve "acme", .done result⟩ →
      result = .error (.notFound "acme") ∨
        ∃ e, result = .error e ∧
          .turn ⟨own, ⟨.find "acme", .error e⟩⟩ ∈ caughtUp.1.map Stage.turn := by
  have going : Logged FairWorld.accepting FairWorld.estate Operation.MakesNone
      overtaken.2 (caughtUp.1.map .turn) caughtUp.2 :=
    logged_play (by simp [Operation.MakesNone, catchingUp]) _
  have returned : overtaken.2.calls[1]? = some ⟨.deprovision "acme", .done (.ok ())⟩ := rfl
  exact ⟨returned, rfl, rfl, forgotten_for_good rfl FairWorld.accepting_dependable
    (FairWorld.hosting_files former "acme") overtaken_logged returned going
    (Brief.of_length (by decide))⟩

/-- A tenant was deprovisioned with nobody being provisioned, and is cached and answered with
again. -/
structure Resurrected (tenant : String) (start middle x : Traffic FairWorld) : Prop where
  idle : start.calls = []
  faithful : ∀ key entry, start.site.cache.entries.find? key = some entry →
    (FairWorld.estate start.site.outside).stored key = some entry
  before : ∃ log, Logged FairWorld.accepting FairWorld.estate Operation.MakesNone start log middle
  returned : ∃ call : Nat, middle.calls[call]? = some ⟨.deprovision tenant, .done (.ok ())⟩
  going : ∃ log, Logged FairWorld.accepting FairWorld.estate Operation.MakesNone middle log x
  cached : x.site.cache.entries.find? tenant ≠ none
  resolved : ∃ (own : Nat) (entry : Entry), middle.calls.length ≤ own ∧
    x.calls[own]? = some ⟨.resolve tenant, .done (.ok entry)⟩

/-- What bears the name of the tenant is stored under another one. -/
def straying : Traffic FairWorld := ⟨{ outside := .filing "bolt" former }, []⟩

def strayed : List Turn × Traffic FairWorld :=
  straying.play FairWorld.accepting (.opening (.deprovision "acme") :: List.replicate 6 (.turn 0))

def relapsed : List Turn × Traffic FairWorld :=
  -- The other name is looked up, and then the tenant.
  strayed.2.play FairWorld.accepting
    (.opening (.resolve "bolt") :: List.replicate 7 (.turn 1) ++
      .opening (.resolve "acme") :: List.replicate 2 (.turn 2))

/-- With the one that began when the tenant was forgotten, these are all generations. -/
def tarried : Traffic FairWorld :=
  { overtaken.2 with
    site := { overtaken.2.site with
      cache := overtaken.2.site.cache.emptied (18446744073709551614 + 1) } }

def outlasted : List Turn × Traffic FairWorld :=
  tarried.play FairWorld.accepting catchingUp

theorem resurrected_by_name : Resurrected "acme" straying strayed.2 relapsed.2 where
  idle := rfl
  faithful := nofun
  before := ⟨_, logged_play (by simp [Operation.MakesNone]) _⟩
  returned := ⟨0, rfl⟩
  going := ⟨_, logged_play (by simp [Operation.MakesNone]) _⟩
  cached := by decide
  resolved := ⟨2, former, by decide, rfl⟩

theorem resurrected_by_patience :
    Resurrected "acme" ⟨{ outside := .hosting former }, []⟩ overtaken.2 outlasted.2 where
  idle := rfl
  faithful := nofun
  before := ⟨_, overtaken_logged⟩
  returned := ⟨1, rfl⟩
  going := ⟨_, (Logged.start.emptied 18446744073709551614).trans
    (logged_play (by simp [Operation.MakesNone, catchingUp]) tarried)⟩
  cached := by decide
  resolved := ⟨2, former, by decide, rfl⟩

/-- Both ways around lead back to the tenant. -/
theorem resurrected : Resurrected "acme" straying strayed.2 relapsed.2 ∧
    Resurrected "acme" ⟨{ outside := .hosting former }, []⟩ overtaken.2 outlasted.2 :=
  ⟨resurrected_by_name, resurrected_by_patience⟩

end Traffic
end TenantRelay.Directory
