import TenantRelay.Directory.Service
import TenantRelay.Proofs.Estate

/-!
Calls of the directory that are under way at the same time. They share one site and take
turns, one access at a time and in any order; between two turns calls are opened, time
goes by and the cache is cleared. A run is known by its turns: what a single call has done
is read off them.
-/

namespace TenantRelay.Directory

inductive Operation where
  | resolve (tenant : String)
  | provision (tenant : String)
  | deprovision (tenant : String)

namespace Operation

abbrev Result : Operation → Type
  | resolve _ => Entry
  | provision _ => Entry
  | deprovision _ => Unit

def program : (o : Operation) → Program (Except DirectoryError o.Result)
  | resolve tenant => Directory.resolve tenant
  | provision tenant => Directory.provision tenant
  | deprovision tenant => Directory.deprovision tenant

def Spares (tenant : String) : Operation → Prop
  | resolve _ => True
  | provision other => other ≠ tenant
  | deprovision other => other ≠ tenant

def MakesNone : Operation → Prop
  | resolve _ => True
  | provision _ => False
  | deprovision _ => True

end Operation

structure Call where
  operation : Operation
  rest : Program (Except DirectoryError operation.Result)

def Call.opening (operation : Operation) : Call := ⟨operation, operation.program⟩

/-- An access of one of the calls, which are numbered in the order of their opening. -/
structure Turn where
  call : Nat
  happening : Happening

/-- What happens in a run: a turn, or that the cache is cleared, which is nobody's turn. -/
inductive Stage where
  | turn (t : Turn)
  | clear

def Stage.turn? : Stage → Option Turn
  | turn t => some t
  | clear => none

def turnsOf (log : List Stage) : List Turn := log.filterMap Stage.turn?

/-! What is read off the turns of a run. -/

def past (turns : List Turn) (call : Nat) : List Happening :=
  (turns.filter (·.call == call)).map (·.happening)

/-- The second turn was taken, and the first one before it. -/
def Precedes (turns : List Turn) (a b : Turn) : Prop :=
  ∃ earlier later, turns = earlier ++ b :: later ∧ a ∈ earlier

section
variable {turns : List Turn} {call : Nat} {h : Happening}

theorem past_append (turns more : List Turn) (call : Nat) :
    past (turns ++ more) call = past turns call ++ past more call := by
  simp only [past, List.filter_append, List.map_append]

theorem past_own (call : Nat) (h : Happening) : past [⟨call, h⟩] call = [h] := by
  simp [past]

theorem past_other {own : Nat} (other : own ≠ call) (h : Happening) :
    past [⟨own, h⟩] call = [] := by
  simp [past, other]

theorem mem_past : h ∈ past turns call ↔ ⟨call, h⟩ ∈ turns := by
  simp only [past, List.mem_map, List.mem_filter, beq_iff_eq]
  constructor
  · rintro ⟨⟨own, h'⟩, ⟨member, same⟩, rfl⟩
    subst same
    exact member
  · intro member
    exact ⟨⟨call, h⟩, ⟨member, rfl⟩, rfl⟩

theorem past_split (earlier later : List Turn) (call : Nat) (h : Happening) :
    past (earlier ++ ⟨call, h⟩ :: later) call = past earlier call ++ h :: past later call := by
  simp [past]

theorem exists_split {before after : List Happening}
    (known : past turns call = before ++ h :: after) :
    ∃ earlier later, turns = earlier ++ ⟨call, h⟩ :: later ∧ past earlier call = before ∧
      past later call = after := by
  induction turns generalizing before with
  | nil => simp [past] at known
  | cons t rest ih =>
      obtain ⟨own, g⟩ := t
      by_cases same : own = call
      · subst same
        cases before with
        | nil =>
            obtain ⟨rfl, rfl⟩ : g = h ∧ past rest own = after := by simpa [past] using known
            exact ⟨[], rest, rfl, rfl, rfl⟩
        | cons first before =>
            obtain ⟨rfl, further⟩ : g = first ∧ past rest own = before ++ h :: after := by
              simpa [past] using known
            obtain ⟨earlier, later, rfl, rfl, rfl⟩ := ih further
            exact ⟨⟨own, g⟩ :: earlier, later, rfl, by simp [past], rfl⟩
      · have elsewhere : past (⟨own, g⟩ :: rest) call = past rest call := by simp [past, same]
        obtain ⟨earlier, later, rfl, rfl, rfl⟩ := ih (elsewhere ▸ known)
        exact ⟨⟨own, g⟩ :: earlier, later, rfl, by simp [past, same], rfl⟩

theorem snoc_cases {α : Type} {before after log : List α} {a last : α}
    (cut : before ++ a :: after = log ++ [last]) :
    before = log ∧ a = last ∧ after = [] ∨
      ∃ more, after = more ++ [last] ∧ before ++ a :: more = log := by
  rcases List.eq_nil_or_concat after with rfl | ⟨more, final, rfl⟩
  · obtain ⟨same, own⟩ := List.append_inj' cut rfl
    exact Or.inl ⟨same, (List.cons.inj own).1, rfl⟩
  · right
    rw [List.concat_eq_append, ← List.cons_append, ← List.append_assoc] at cut
    obtain ⟨same, own⟩ := List.append_inj' cut rfl
    rw [List.concat_eq_append, own]
    exact ⟨more, rfl, same⟩

theorem precedes_of_mem {a b : Turn} (earlier : List Turn) {later : List Turn}
    (member : b ∈ later) : Precedes (earlier ++ a :: later) a b := by
  obtain ⟨between, rest, rfl⟩ := List.append_of_mem member
  exact ⟨earlier ++ a :: between, rest, by simp, by simp⟩

theorem Precedes.append {a b : Turn} (precedes : Precedes turns a b) (more : List Turn) :
    Precedes (turns ++ more) a b := by
  obtain ⟨earlier, later, rfl, member⟩ := precedes
  exact ⟨earlier, later ++ more, by simp, member⟩

theorem turnsOf_append (log more : List Stage) :
    turnsOf (log ++ more) = turnsOf log ++ turnsOf more :=
  List.filterMap_append

theorem turnsOf_turns (turns : List Turn) : turnsOf (turns.map .turn) = turns := by
  rw [turnsOf, List.filterMap_map]
  exact List.filterMap_some

theorem mem_turnsOf {log : List Stage} {t : Turn} : t ∈ turnsOf log ↔ .turn t ∈ log := by
  rw [turnsOf, List.mem_filterMap]
  constructor
  · rintro ⟨stage, member, same⟩
    cases stage with
    | turn t' => cases same; exact member
    | clear => cases same
  · intro member
    exact ⟨_, member, rfl⟩

theorem turnsOf_split {log : List Stage} {earlier later : List Turn} {t : Turn}
    (split : turnsOf log = earlier ++ t :: later) :
    ∃ before after, log = before ++ .turn t :: after ∧ turnsOf before = earlier ∧
      turnsOf after = later := by
  obtain ⟨before, rest, rfl, rfl, last⟩ := List.filterMap_eq_append_iff.mp split
  obtain ⟨cleared, stage, after, rfl, nobody, own, rfl⟩ := List.filterMap_eq_cons_iff.mp last
  cases stage with
  | clear => cases own
  | turn t' =>
      cases own
      refine ⟨before ++ cleared, after, by simp, ?_, rfl⟩
      rw [turnsOf_append, turnsOf, turnsOf, List.filterMap_eq_nil_iff.mpr nobody, List.append_nil]

theorem Precedes.snd_mem {a b : Turn} (precedes : Precedes turns a b) : b ∈ turns := by
  obtain ⟨earlier, later, rfl, _⟩ := precedes
  exact List.mem_append_right _ List.mem_cons_self

end

structure Traffic (σ : Type) where
  site : Site σ
  calls : List Call := []

namespace Traffic

variable {σ : Type} (s : Surroundings σ) (view : σ → Estate) (opens : Operation → Prop)

def operation? (x : Traffic σ) (call : Nat) : Option Operation :=
  x.calls[call]?.map (·.operation)

def Fresh (x : Traffic σ) : Prop := ∀ c ∈ x.calls, ∃ o, c = .opening o

/-- A call takes its turn. -/
inductive Turns (x : Traffic σ) (t : Turn) : Traffic σ → Prop where
  | turn {o : Operation}
      {next : t.happening.access.Answer → Program (Except DirectoryError o.Result)} :
      x.calls[t.call]? = some ⟨o, .step t.happening.access next⟩ →
      t.happening.answer = (x.site.answer s t.happening.access).1 →
      Turns x t ⟨(x.site.answer s t.happening.access).2,
        x.calls.set t.call ⟨o, next t.happening.answer⟩⟩

/-- The turns that were taken since the start, and where they led. -/
inductive Run (start : Traffic σ) : List Turn → Traffic σ → Prop where
  | start : Run start [] start
  | opening {turns : List Turn} {x : Traffic σ} (o : Operation) : opens o → Run start turns x →
      Run start turns { x with calls := x.calls ++ [.opening o] }
  | turn {turns : List Turn} {x y : Traffic σ} {t : Turn} : Run start turns x →
      x.Turns s t y → Run start (turns ++ [t]) y
  | wait {turns : List Turn} {x : Traffic σ} {w : σ} : view w = view x.site.outside →
      Run start turns x → Run start turns { x with site := { x.site with outside := w } }
  | clear {turns : List Turn} {x : Traffic σ} : Run start turns x →
      Run start turns { x with site := { x.site with cache := x.site.cache.clear } }

/-- A run with all that happened on the way. -/
inductive Logged (start : Traffic σ) : List Stage → Traffic σ → Prop where
  | start : Logged start [] start
  | opening {log : List Stage} {x : Traffic σ} (o : Operation) : opens o → Logged start log x →
      Logged start log { x with calls := x.calls ++ [.opening o] }
  | turn {log : List Stage} {x y : Traffic σ} {t : Turn} : Logged start log x →
      x.Turns s t y → Logged start (log ++ [.turn t]) y
  | wait {log : List Stage} {x : Traffic σ} {w : σ} : view w = view x.site.outside →
      Logged start log x → Logged start log { x with site := { x.site with outside := w } }
  | clear {log : List Stage} {x : Traffic σ} : Logged start log x → Logged start (log ++ [.clear])
      { x with site := { x.site with cache := x.site.cache.clear } }

section
variable {s view opens} {start middle x : Traffic σ} {turns more earlier later : List Turn}
  {log soFar next before after : List Stage} {t : Turn}

theorem Logged.run (logged : Logged s view opens start log x) :
    Run s view opens start (turnsOf log) x := by
  induction logged with
  | start => exact .start
  | opening o allowed _ ih => exact .opening o allowed ih
  | turn _ turned ih =>
      rw [turnsOf_append]
      exact .turn ih turned
  | wait same _ ih => exact .wait same ih
  | clear _ ih =>
      rw [turnsOf_append, show turnsOf [.clear] = [] from rfl, List.append_nil]
      exact .clear ih

theorem Run.logged (run : Run s view opens start turns x) :
    ∃ log, turnsOf log = turns ∧ Logged s view opens start log x := by
  induction run with
  | start => exact ⟨[], rfl, .start⟩
  | opening o allowed _ ih =>
      obtain ⟨log, same, logged⟩ := ih
      exact ⟨log, same, .opening o allowed logged⟩
  | turn _ turned ih =>
      obtain ⟨log, rfl, logged⟩ := ih
      exact ⟨_, turnsOf_append _ _, .turn logged turned⟩
  | wait same _ ih =>
      obtain ⟨log, told, logged⟩ := ih
      exact ⟨log, told, .wait same logged⟩
  | clear _ ih =>
      obtain ⟨log, rfl, logged⟩ := ih
      exact ⟨_, (turnsOf_append _ _).trans (List.append_nil _), .clear logged⟩

theorem Logged.trans (first : Logged s view opens start soFar middle)
    (second : Logged s view opens middle next x) :
    Logged s view opens start (soFar ++ next) x := by
  induction second with
  | start => simpa using first
  | opening o allowed _ ih => exact .opening o allowed ih
  | turn _ turned ih =>
      rw [← List.append_assoc]
      exact .turn ih turned
  | wait same _ ih => exact .wait same ih
  | clear _ ih =>
      rw [← List.append_assoc]
      exact .clear ih

/-- A run can be cut at each of its turns. -/
theorem Logged.cut (logged : Logged s view opens start (before ++ .turn t :: after) x) :
    ∃ y z, Logged s view opens start before y ∧ y.Turns s t z ∧
      Logged s view opens z after x := by
  generalize cut : before ++ .turn t :: after = log at logged
  induction logged generalizing after with
  | start => simp at cut
  | opening o allowed _ ih =>
      obtain ⟨y, z, before, turned, after⟩ := ih cut
      exact ⟨y, z, before, turned, .opening o allowed after⟩
  | wait same _ ih =>
      obtain ⟨y, z, before, turned, after⟩ := ih cut
      exact ⟨y, z, before, turned, .wait same after⟩
  | turn logged turned ih =>
      rcases snoc_cases cut with ⟨rfl, same, rfl⟩ | ⟨more, rfl, shorter⟩
      · cases same
        exact ⟨_, _, logged, turned, .start⟩
      · obtain ⟨y, z, before, earlier, later⟩ := ih shorter
        exact ⟨y, z, before, earlier, .turn later turned⟩
  | clear _ ih =>
      rcases snoc_cases cut with ⟨_, same, _⟩ | ⟨more, rfl, shorter⟩
      · cases same
      · obtain ⟨y, z, before, earlier, later⟩ := ih shorter
        exact ⟨y, z, before, earlier, .clear later⟩

theorem Run.trans (first : Run s view opens start turns middle)
    (second : Run s view opens middle more x) : Run s view opens start (turns ++ more) x := by
  obtain ⟨log, rfl, told⟩ := first.logged
  obtain ⟨next, rfl, more⟩ := second.logged
  rw [← turnsOf_append]
  exact (told.trans more).run

theorem Run.cut (run : Run s view opens start (earlier ++ t :: later) x) :
    ∃ y z, Run s view opens start earlier y ∧ y.Turns s t z ∧ Run s view opens z later x := by
  obtain ⟨log, split, logged⟩ := run.logged
  obtain ⟨before, after, rfl, rfl, rfl⟩ := turnsOf_split split
  obtain ⟨y, z, soFar, turned, going⟩ := logged.cut
  exact ⟨y, z, soFar.run, turned, going.run⟩

theorem fresh_of_calls (os : List Operation) (calls : x.calls = os.map .opening) : x.Fresh := by
  intro c member
  rw [calls] at member
  obtain ⟨o, _, rfl⟩ := List.mem_map.mp member
  exact ⟨o, rfl⟩

theorem operation?_of_calls (os : List Operation) (calls : x.calls = os.map .opening)
    (call : Nat) : x.operation? call = os[call]? := by
  simp only [Traffic.operation?, calls, List.getElem?_map, Option.map_map]
  exact Option.map_id'

theorem Turns.operation? {y : Traffic σ} (turned : x.Turns s t y) (call : Nat) :
    y.operation? call = x.operation? call := by
  cases turned with
  | turn ready _ =>
      by_cases own : t.call = call
      · subst own
        have within := (List.getElem?_eq_some_iff.mp ready).1
        simp [Traffic.operation?, ready, List.getElem?_set_self within]
      · simp [Traffic.operation?, own]

theorem Turns.length_calls {y : Traffic σ} (turned : x.Turns s t y) :
    y.calls.length = x.calls.length := by
  cases turned with
  | turn _ _ => exact List.length_set

theorem Run.length_calls_le (run : Run s view opens start turns x) :
    start.calls.length ≤ x.calls.length := by
  induction run with
  | start => exact Nat.le_refl _
  | opening o _ _ ih => simp only [List.length_append]; omega
  | turn _ turned ih => rw [turned.length_calls]; exact ih
  | wait _ _ ih => exact ih
  | clear _ ih => exact ih

theorem Run.call_lt (run : Run s view opens start turns x) (member : t ∈ turns) :
    t.call < x.calls.length := by
  induction run with
  | start => cases member
  | opening o _ _ ih => simp only [List.length_append]; have := ih member; omega
  | turn _ turned ih =>
      rw [turned.length_calls]
      rcases List.mem_append.mp member with earlier | last
      · exact ih earlier
      · cases turned with
        | turn ready _ =>
            rw [List.mem_singleton.mp last]
            exact (List.getElem?_eq_some_iff.mp ready).1
  | wait _ _ ih => exact ih member
  | clear _ ih => exact ih member

theorem Run.past_eq_nil (run : Run s view opens start turns x) {call : Nat}
    (unopened : x.calls.length ≤ call) : past turns call = [] := by
  apply List.eq_nil_iff_forall_not_mem.mpr
  intro h member
  exact Nat.not_lt.mpr unopened (run.call_lt (mem_past.mp member))

theorem Run.operation? (run : Run s view opens start turns x) {call : Nat} {o : Operation}
    (known : x.operation? call = some o) :
    start.operation? call = some o ∨ start.calls.length ≤ call ∧ opens o := by
  induction run with
  | start => exact Or.inl known
  | @opening _ x' o' allowed run ih =>
      by_cases within : call < x'.calls.length
      · apply ih
        rw [← known]
        simp [Traffic.operation?, List.getElem?_append_left within]
      · right
        have few := run.length_calls_le
        rw [Traffic.operation?, List.getElem?_append_right (Nat.le_of_not_lt within)] at known
        obtain ⟨c, found, rfl⟩ := Option.map_eq_some_iff.mp known
        have opened : c = .opening o' := by simpa using List.mem_of_getElem? found
        subst opened
        exact ⟨by omega, allowed⟩
  | turn _ turned ih =>
      rw [turned.operation? call] at known
      exact ih known
  | wait _ _ ih => exact ih known
  | clear _ ih => exact ih known

end

/-! Runs by a schedule. -/

inductive Move where
  | opening (o : Operation)
  | turn (call : Nat)

def take (call : Nat) (x : Traffic σ) : List Turn × Traffic σ :=
  match x.calls[call]? with
  | some ⟨o, .step access next⟩ =>
      let (answer, site) := x.site.answer s access
      ([⟨call, ⟨access, answer⟩⟩], ⟨site, x.calls.set call ⟨o, next answer⟩⟩)
  | some ⟨_, .done _⟩ => ([], x)
  | none => ([], x)

def play : List Move → Traffic σ → List Turn × Traffic σ
  | [], x => ([], x)
  | .opening o :: rest, x => play rest { x with calls := x.calls ++ [.opening o] }
  | .turn call :: rest, x =>
      let (taken, y) := x.take s call
      let (more, z) := play rest y
      (taken ++ more, z)

section
variable {s view opens}

theorem Logged.take {start x : Traffic σ} {log : List Stage}
    (logged : Logged s view opens start log x) (call : Nat) :
    Logged s view opens start (log ++ (x.take s call).1.map .turn) (x.take s call).2 := by
  unfold Traffic.take
  split
  case h_1 o access next ready =>
    exact .turn logged
      (.turn (t := ⟨call, ⟨access, (x.site.answer s access).1⟩⟩) ready rfl)
  case h_2 => simpa using logged
  case h_3 => simpa using logged

theorem logged_play {moves : List Move} (allowed : ∀ o, .opening o ∈ moves → opens o)
    (start : Traffic σ) :
    Logged s view opens start ((start.play s moves).1.map .turn) (start.play s moves).2 := by
  induction moves generalizing start with
  | nil => exact .start
  | cons move rest ih =>
      have later := ih fun o member => allowed o (List.mem_cons_of_mem move member)
      cases move with
      | opening o =>
          exact (Logged.opening o (allowed o List.mem_cons_self) .start).trans (later _)
      | turn call =>
          simp only [play, List.map_append]
          exact (Logged.start.take call).trans (later _)

theorem run_play {moves : List Move} (allowed : ∀ o, .opening o ∈ moves → opens o)
    (start : Traffic σ) :
    Run s view opens start (start.play s moves).1 (start.play s moves).2 := by
  have logged : Logged s view opens start ((start.play s moves).1.map .turn)
      (start.play s moves).2 := logged_play allowed start
  have run := logged.run
  rwa [turnsOf_turns] at run

end

end Traffic
end TenantRelay.Directory
