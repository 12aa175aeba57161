import Mathlib.Control.Monad.Basic
import TenantRelay.Proofs.DiskChanges
import TenantRelay.Proofs.StoreCalls

/-!
A store in a file answers as one in memory would. An update has a lock while it loads the file,
writes a draft and lets the draft take the name of the file. Calls that only look may come in
between at any time, and the store may be opened again at any time, which gives up the update
that has the lock. What the file holds stands for the entries of the store in memory, and only
the step in which an update counts changes it.
-/

namespace TenantRelay

open Document

/-- How far the update that has the lock has come. One that waits for the lock has not done
anything yet. -/
inductive Stage where
  | free
  | planned (u : Update)
  | drafted (u : Update)

structure Session where
  disk : Disk
  stage : Stage := .free

namespace FileStore

/-- The draft is the file itself, as the name of the file ends like that of a draft. -/
def ownDraft (store : FileStore) (disk : Disk) : Bool :=
  match disk.locate store.draft, disk.locate store.path with
  | .ok place, .ok goal => Disk.key goal == Disk.key place && !Disk.wantsDirectory store.path
  | _, _ => false

/-- One step of a store while the disk does not fail, and the answers that count from this step
on. An update counts from where it changes the file. A draft is written in one step, since nobody
looks into it. Where it is the file itself, a get in the middle would find the file cut short,
and such a get is left out. -/
inductive Step (home path : String) (store : FileStore) :
    Session → List Answered → Session → Prop where
  | answer {s : Session} {a : Answered} (call : StoreCall)
      (lock : call.updates = true → s.stage = .free)
      (planned : call.plan (store.load s.disk) = .answer a) (sound : a.Sound) :
      Step home path store s [a] s
  | plan {disk : Disk} {u : Update} (call : StoreCall)
      (planned : call.plan (store.load disk) = .save u) :
      Step home path store ⟨disk, .free⟩ [] ⟨disk, .planned u⟩
  | draft {disk written : Disk} {u : Update}
      (done : disk.write store.draft u.entries.encode = .ok written) :
      Step home path store ⟨disk, .planned u⟩ (if store.ownDraft disk then [u.answered] else [])
        ⟨written, .drafted u⟩
  | rename {disk renamed : Disk} {u : Update}
      (done : disk.rename store.draft store.path = .ok renamed) :
      Step home path store ⟨disk, .drafted u⟩ (if store.ownDraft disk then [] else [u.answered])
        ⟨renamed, .free⟩
  | reopen {s : Session} {disk : Disk} (done : create s.disk home path = .ok (store, disk)) :
      Step home path store s [] ⟨disk, .free⟩

inductive Run (home path : String) (store : FileStore) :
    Session → List Answered → Session → Prop where
  | done (s : Session) : Run home path store s [] s
  | step {s next last : Session} {log later : List Answered}
      (first : Step home path store s log next) (rest : Run home path store next later last) :
      Run home path store s (log ++ later) last

variable {home path : String} {store : FileStore} {d e first before : Disk} {entries : Entries}

/-! Opening. -/

theorem create_gives (opened : create before home path = .ok (store, first)) :
    Disk.Kept before first ∧
    ∀ later, Disk.Grown first later → create later home path = .ok (store, later) := by
  have still : Disk.Kept before before := ⟨rfl, fun _ _ there => there⟩
  unfold create at opened ⊢
  dsimp only at opened ⊢
  split at opened
  case h_1 =>
    cases opened
    exact ⟨still, fun _ _ => rfl⟩
  case h_2 above _ =>
    split at opened
    case isTrue here =>
      cases opened
      exact ⟨still, fun _ _ => if_pos here⟩
    case isFalse elsewhere =>
      cases made : before.makeAll above with
      | error fault =>
          rw [made] at opened
          cases opened
      | ok disk =>
          rw [made] at opened
          cases opened
          refine ⟨Disk.kept_makeAll made, fun later grown => ?_⟩
          rw [if_neg elsewhere, Disk.makeAll_again made grown]
          rfl

/-! What is loaded. -/

def Reaches (store : FileStore) (disk : Disk) : Prop :=
  (∃ goal, disk.locate store.path = .ok goal) ∧ Disk.wantsDirectory store.path = false

theorem reaches_of_alike (alike : Disk.Alike d e) : store.Reaches e ↔ store.Reaches d := by
  simp only [Reaches, alike.locate]

theorem reaches_of_read {content : Bytes} (read : d.read store.path = .ok content) :
    store.Reaches d := by
  obtain ⟨goal, located, _, plain⟩ := Disk.read_eq_ok_iff.mp read
  exact ⟨⟨goal, located⟩, plain⟩

theorem ownDraft_iff : store.ownDraft d = true ↔ ∃ place goal,
    d.locate store.draft = .ok place ∧ d.locate store.path = .ok goal ∧
      Disk.key goal = Disk.key place ∧ Disk.wantsDirectory store.path = false := by
  unfold ownDraft
  cases d.locate store.draft with
  | error fault => simp
  | ok place =>
      cases d.locate store.path with
      | error fault => simp
      | ok goal => simp

theorem ownDraft_of_alike (alike : Disk.Alike d e) : store.ownDraft e = store.ownDraft d := by
  rw [Bool.eq_iff_iff, ownDraft_iff, ownDraft_iff]
  simp only [alike.locate]

theorem load_of_read {content : Bytes} (read : d.read store.path = .ok content) :
    store.load d = Entries.decode content := by
  simp only [load, read]

theorem load_of_saved (timely : entries.Timely)
    (read : d.read store.path = .ok entries.encode) : store.load d = .ok entries := by
  rw [load_of_read read, Entries.decode_encode timely]

theorem load_of_not_reaches (astray : ¬store.Reaches d) :
    store.load d = .ok ∅ ∨ ∃ text, store.load d = .error (.io text) := by
  cases read : d.read store.path with
  | ok content => exact absurd (reaches_of_read read) astray
  | error fault => cases fault <;> simp [load, read, diskError]

theorem timely_of_load (loaded : store.load d = .ok entries) : entries.Timely := by
  cases read : d.read store.path with
  | ok content =>
      rw [load_of_read read] at loaded
      exact Entries.timely_of_decode loaded
  | error fault =>
      simp only [load, read] at loaded
      split at loaded
      case h_1 same => cases same
      case h_2 => cases loaded; exact Entries.timely_empty
      case h_3 => cases loaded

end FileStore

/-! What a file stands for. -/

def Stage.Fits (store : FileStore) (disk : Disk) (entries : Entries) : Stage → Prop
  | free => True
  | planned u => u.call.plan (.ok entries) = .save u
  | drafted u => disk.read store.draft = .ok u.entries.encode ∧
      if store.ownDraft disk then u.entries = entries else u.call.plan (.ok entries) = .save u

/-- A store that was opened on some disk has these entries by now. -/
structure Session.Has (store : FileStore) (first : Disk) (s : Session) (entries : Entries) :
    Prop where
  alike : Disk.Alike first s.disk
  timely : entries.Timely
  loads : store.Reaches s.disk → store.load s.disk = .ok entries
  nothing : ¬store.Reaches s.disk → entries = ∅
  stage : s.stage.Fits store s.disk entries

open StoreCall DirectoryStore

def Agrees (log : List Answered) (before after : Entries) : Prop :=
  memory.serve (log.map (·.call)) { memory := before } = (log, { memory := after })

namespace Agrees

variable {log later : List Answered} {entries between after : Entries} {call : StoreCall}

theorem append (first : Agrees log entries between) (rest : Agrees later between after) :
    Agrees (log ++ later) entries after := by
  unfold Agrees at first rest ⊢
  rw [List.map_append, serve_append, first, rest]

theorem of_answer {a : Answered} (planned : call.plan (.ok entries) = .answer a) :
    Agrees [a] entries entries := by
  have same := call_of_answer planned
  have served := serve_memory call { memory := entries }
  rw [planned] at served
  rw [Agrees, List.map_singleton, same]
  exact served

theorem of_save {u : Update} (planned : call.plan (.ok entries) = .save u) :
    Agrees [u.answered] entries u.entries := by
  have same : u.answered.call = call := (update_of_save planned).1
  have served := serve_memory call { memory := entries }
  rw [planned] at served
  rw [Agrees, List.map_singleton, same]
  exact served

end Agrees

/-! What a step does to what the store has. -/

namespace Session.Has

open FileStore

variable {home path : String} {store : FileStore} {first before disk : Disk} {entries : Entries}
  {s : Session} {call : StoreCall} {u : Update}

theorem load_eq (has : s.Has store first entries)
    (works : ∀ text, store.load s.disk ≠ .error (.io text)) :
    store.load s.disk = .ok entries := by
  by_cases reaches : store.Reaches s.disk
  · exact has.loads reaches
  · rcases load_of_not_reaches reaches with loaded | ⟨text, failed⟩
    · rw [has.nothing reaches, loaded]
    · exact absurd failed (works text)

theorem answer {a : Answered} (has : s.Has store first entries)
    (planned : call.plan (store.load s.disk) = .answer a) (sound : a.Sound) :
    Agrees [a] entries entries := by
  have works : ∀ text, store.load s.disk ≠ .error (.io text) := by
    intro text failed
    rw [failed, plan_error] at planned
    cases planned
    exact sound text (fault?_failure call _)
  rw [has.load_eq works] at planned
  exact .of_answer planned

theorem plan (has : Has store first ⟨disk, .free⟩ entries)
    (planned : call.plan (store.load disk) = .save u) :
    Has store first ⟨disk, .planned u⟩ entries := by
  obtain ⟨rfl, _, loaded, read⟩ := update_of_save planned
  have same : store.load disk = .ok entries := by
    apply has.load_eq
    intro text failed
    cases read.symm.trans failed
  have stage : u.call.plan (.ok entries) = .save u := same ▸ planned
  exact { has with stage }

variable {written renamed : Disk}

theorem draft_own (has : Has store first ⟨disk, .planned u⟩ entries)
    (done : disk.write store.draft u.entries.encode = .ok written)
    (own : store.ownDraft disk = true) (timely : u.call.Timely) :
    Has store first ⟨written, .drafted u⟩ u.entries := by
  have alike := Disk.alike_write done
  have later : u.entries.Timely := timely_of_save has.timely timely has.stage
  obtain ⟨place, goal, located, reached, same, plain⟩ := ownDraft_iff.mp own
  have read := Disk.read_write_same done located reached same plain
  refine ⟨has.alike.trans alike, later, fun _ => load_of_saved later read, ?_, ?_⟩
  · intro astray
    exact absurd (reaches_of_read read) astray
  · refine ⟨Disk.read_write done, ?_⟩
    rw [ownDraft_of_alike alike, own]
    rfl

theorem draft_other (has : Has store first ⟨disk, .planned u⟩ entries)
    (done : disk.write store.draft u.entries.encode = .ok written)
    (other : store.ownDraft disk = false) : Has store first ⟨written, .drafted u⟩ entries := by
  have alike := Disk.alike_write done
  refine ⟨has.alike.trans alike, has.timely, ?_, ?_, ?_⟩
  · intro after
    have reaches := (reaches_of_alike alike).mp after
    obtain ⟨place, located, _⟩ := Disk.write_gives done
    have ⟨⟨goal, reached⟩, plain⟩ := reaches
    have apart : Disk.key goal ≠ Disk.key place := by
      intro same
      have own := ownDraft_iff.mpr ⟨place, goal, located, reached, same, plain⟩
      rw [other] at own
      cases own
    have loaded := has.loads reaches
    simp only [load, Disk.read_write_other done located reached apart] at loaded ⊢
    exact loaded
  · rw [reaches_of_alike alike]
    exact has.nothing
  · refine ⟨Disk.read_write done, ?_⟩
    rw [ownDraft_of_alike alike, other]
    exact has.stage

theorem rename (has : Has store first ⟨disk, .drafted u⟩ entries)
    (done : disk.rename store.draft store.path = .ok renamed) (timely : u.entries.Timely) :
    Has store first ⟨renamed, .free⟩ u.entries := by
  obtain ⟨alike, moved⟩ := Disk.rename_changes done
  have read := moved _ has.stage.1
  refine ⟨has.alike.trans alike, timely, fun _ => load_of_saved timely read, ?_, trivial⟩
  intro astray
  exact absurd (reaches_of_read read) astray

theorem reopen (has : s.Has store first entries)
    (opened : create before home path = .ok (store, first))
    (done : create s.disk home path = .ok (store, disk)) :
    Has store first ⟨disk, .free⟩ entries := by
  have again := (create_gives opened).2 s.disk has.alike.grown
  cases again.symm.trans done
  exact { has with stage := trivial }

theorem step {next : Session} {log : List Answered} (has : s.Has store first entries)
    (opened : create before home path = .ok (store, first))
    (stepped : Step home path store s log next) (timely : ∀ a ∈ log, a.call.Timely) :
    ∃ after, Agrees log entries after ∧ next.Has store first after := by
  -- An update counts once: with its draft, if that is the file itself, or else with its name.
  cases stepped with
  | answer call lock planned sound => exact ⟨entries, has.answer planned sound, has⟩
  | plan call planned => exact ⟨entries, rfl, has.plan planned⟩
  | @draft disk written u done =>
      cases own : store.ownDraft disk with
      | true =>
          rw [own] at timely
          have mine : u.call.Timely := timely u.answered List.mem_cons_self
          exact ⟨u.entries, .of_save has.stage, has.draft_own done own mine⟩
      | false => exact ⟨entries, rfl, has.draft_other done own⟩
  | @rename disk renamed u done =>
      have stage := has.stage.2
      cases own : store.ownDraft disk with
      | true =>
          rw [own] at stage
          have same : u.entries = entries := stage
          exact ⟨u.entries, same ▸ rfl, has.rename done (same ▸ has.timely)⟩
      | false =>
          rw [own] at stage timely
          have planned : u.call.plan (.ok entries) = .save u := stage
          have mine : u.call.Timely := timely u.answered List.mem_cons_self
          exact ⟨u.entries, .of_save planned,
            has.rename done (timely_of_save has.timely mine planned)⟩
  | reopen done => exact ⟨entries, rfl, has.reopen opened done⟩

-- The induction is on the run: what its first step leaves is what the rest begins with.
theorem run {last : Session} {log : List Answered} (has : s.Has store first entries)
    (opened : create before home path = .ok (store, first))
    (ran : Run home path store s log last) (timely : ∀ a ∈ log, a.call.Timely) :
    ∃ after, Agrees log entries after ∧ last.Has store first after := by
  induction ran generalizing entries with
  | done s => exact ⟨entries, rfl, has⟩
  | step stepped rest ih =>
      obtain ⟨own, others⟩ := List.forall_mem_append.mp timely
      obtain ⟨between, agrees, has⟩ := has.step opened stepped own
      obtain ⟨after, later, has⟩ := ih has others
      exact ⟨after, agrees.append later, has⟩

end Session.Has

namespace FileStore

variable {home path : String} {store : FileStore} {first before : Disk} {start : Entries}

theorem has_loaded (loaded : store.load first = .ok start) :
    Session.Has store first ⟨first, .free⟩ start where
  alike := .refl first
  timely := timely_of_load loaded
  loads _ := loaded
  nothing := by
    intro astray
    rcases load_of_not_reaches astray with empty | ⟨text, failed⟩
    · cases loaded.symm.trans empty
      rfl
    · cases loaded.symm.trans failed
  stage := trivial

/-! A file that cannot be loaded. -/

/-- There is something in the file, and it is no directory. -/
def Spoilt (store : FileStore) (disk : Disk) : Prop :=
  ∃ content, disk.read store.path = .ok content ∧ content ≠ [] ∧
    ∀ entries, Json.parse Entries.decoder content ≠ .ok entries

theorem load_of_spoilt (spoilt : store.Spoilt first) :
    ∃ text, store.load first = .error (.store text) := by
  obtain ⟨content, read, something, unread⟩ := spoilt
  have full : content.isEmpty = false := List.isEmpty_eq_false_iff.mpr something
  cases parsed : Json.parse Entries.decoder content with
  | ok entries => exact absurd parsed (unread entries)
  | error e =>
      rw [load_of_read read, Entries.decode, full, parsed]
      exact ⟨_, rfl⟩

/-- It was not possible to load the file. -/
def Refused (a : Answered) : Prop := ∃ text, a.fault? = some (.store text)

theorem serve_spoilt {h : Holdings} (spoilt : store.Spoilt h.disk) (call : StoreCall) :
    ∃ a, (DirectoryStore.file store).serve [call] h = ([a], h) ∧ Refused a := by
  obtain ⟨text, failed⟩ := load_of_spoilt spoilt
  have served := serve_file store call h
  rw [failed, plan_error] at served
  exact ⟨_, served, text, fault?_failure call _⟩

theorem Step.spoilt {next : Session} {log : List Answered} (spoilt : store.Spoilt first)
    (opened : create before home path = .ok (store, first))
    (stepped : Step home path store ⟨first, .free⟩ log next) :
    next = ⟨first, .free⟩ ∧ ∀ a ∈ log, Refused a := by
  obtain ⟨text, failed⟩ := load_of_spoilt spoilt
  cases stepped with
  | answer call lock planned sound =>
      have planned : call.plan (store.load first) = _ := planned
      rw [failed, plan_error] at planned
      cases planned
      exact ⟨rfl, List.forall_mem_singleton.mpr ⟨text, fault?_failure call _⟩⟩
  | plan call planned =>
      rw [failed, plan_error] at planned
      cases planned
  | reopen done =>
      have again := (create_gives opened).2 first (.refl first)
      cases again.symm.trans done
      exact ⟨rfl, nofun⟩

theorem Run.spoilt {last : Session} {log : List Answered} (spoilt : store.Spoilt first)
    (opened : create before home path = .ok (store, first))
    (ran : Run home path store ⟨first, .free⟩ log last) :
    last = ⟨first, .free⟩ ∧ ∀ a ∈ log, Refused a := by
  generalize begun : (⟨first, .free⟩ : Session) = s at ran
  induction ran with
  | done s => exact ⟨rfl, nofun⟩
  | step stepped rest ih =>
      subst begun
      obtain ⟨rfl, own⟩ := stepped.spoilt spoilt opened
      obtain ⟨same, later⟩ := ih rfl
      exact ⟨same, List.forall_mem_append.mpr ⟨own, later⟩⟩

/-! Calls made one after another are a run. -/

theorem Run.append {s between last : Session} {log later : List Answered}
    (first : Run home path store s log between) (rest : Run home path store between later last) :
    Run home path store s (log ++ later) last := by
  induction first with
  | done s => exact rest
  | step stepped _ ih =>
      rw [List.append_assoc]
      exact .step stepped (ih rest)

theorem Run.single {s next : Session} {log : List Answered}
    (stepped : Step home path store s log next) : Run home path store s log next := by
  have ran := Run.step stepped (.done next)
  rw [List.append_nil] at ran
  exact ran

theorem run_save {u : Update} {call : StoreCall} {disk saved : Disk}
    (planned : call.plan (store.load disk) = .save u)
    (done : store.save u.entries disk = (.ok (), saved)) :
    Run home path store ⟨disk, .free⟩ [u.answered] ⟨saved, .free⟩ := by
  unfold save at done
  split at done
  case h_1 => cases done
  case h_2 written wrote =>
    split at done
    case h_1 => cases done
    case h_2 renamed moved =>
      cases done
      have began : Run home path store ⟨disk, .free⟩ [] ⟨disk, .planned u⟩ :=
        .single (.plan call planned)
      have drafted : Run home path store ⟨disk, .planned u⟩ _ ⟨written, .drafted u⟩ :=
        .single (.draft wrote)
      have named : Run home path store ⟨written, .drafted u⟩ _ ⟨saved, .free⟩ :=
        .single (.rename moved)
      -- Whether the draft is the file itself is the same before it is written and after, so the
      -- update counts in just one of the two steps.
      have whole := began.append (drafted.append named)
      rw [ownDraft_of_alike (Disk.alike_write wrote)] at whole
      cases own : store.ownDraft disk with
      | true =>
          rw [own] at whole
          exact whole
      | false =>
          rw [own] at whole
          exact whole

theorem failed_of_save {entries : Entries} {disk saved : Disk} {e : DirectoryError}
    (done : store.save entries disk = (.error e, saved)) : ∃ text, e = .io text := by
  unfold save at done
  split at done
  case h_1 => cases done; exact ⟨_, rfl⟩
  case h_2 =>
    split at done
    case h_1 => cases done; exact ⟨_, rfl⟩
    case h_2 => cases done

theorem run_call (call : StoreCall) (h : Holdings)
    (sound : ∀ a ∈ ((DirectoryStore.file store).serve [call] h).1, a.Sound) :
    Run home path store ⟨h.disk, .free⟩ ((DirectoryStore.file store).serve [call] h).1
      ⟨((DirectoryStore.file store).serve [call] h).2.disk, .free⟩ := by
  rw [serve_file] at sound ⊢
  split at sound
  case h_1 a planned =>
    exact .single (.answer call (fun _ => rfl) planned (sound a List.mem_cons_self))
  case h_2 u planned =>
    split at sound
    case h_1 disk done => exact run_save planned done
    case h_2 e disk done =>
      obtain ⟨text, rfl⟩ := failed_of_save done
      exact absurd (fault?_failure _ _) (sound _ List.mem_cons_self text)

/-- Calls that come one after another are a run, if the disk does not fail. -/
theorem run_serve (calls : List StoreCall) (h : Holdings)
    (sound : ∀ a ∈ ((DirectoryStore.file store).serve calls h).1, a.Sound) :
    Run home path store ⟨h.disk, .free⟩ ((DirectoryStore.file store).serve calls h).1
      ⟨((DirectoryStore.file store).serve calls h).2.disk, .free⟩ := by
  induction calls generalizing h with
  | nil => exact .done _
  | cons call rest ih =>
      rw [← List.singleton_append, serve_append] at sound ⊢
      obtain ⟨own, later⟩ := List.forall_mem_append.mp sound
      exact (run_call call h own).append (ih _ later)

/-! A disk that does not fail. -/

/-- Nothing is in the way of the file, nor of its draft. -/
structure Ready (store : FileStore) (disk : Disk) : Prop where
  file : disk.Admits store.path
  draft : disk.Admits store.draft

theorem Ready.load {text : String} (ready : store.Ready d) :
    store.load d ≠ .error (.io text) := by
  intro failed
  rcases ready.file.read with ⟨content, read⟩ | missing
  · rw [load_of_read read] at failed
    obtain ⟨_, same⟩ := Entries.store_of_decode failed
    cases same
  · simp only [FileStore.load, missing] at failed
    cases failed

theorem Ready.save (ready : store.Ready d) (entries : Entries) :
    ∃ saved, store.save entries d = (.ok (), saved) ∧ store.Ready saved := by
  obtain ⟨written, wrote⟩ := ready.draft.write entries.encode
  have file : written.Admits store.path := ready.file.alike (Disk.alike_write wrote)
  have draft : written.Admits store.draft := ready.draft.alike (Disk.alike_write wrote)
  obtain ⟨renamed, moved⟩ := file.rename (Disk.read_write wrote)
  have alike := (Disk.rename_changes moved).1
  refine ⟨renamed, ?_, file.alike alike, draft.alike alike⟩
  simp only [FileStore.save, wrote, moved]

theorem Ready.call {h : Holdings} (ready : store.Ready h.disk) (call : StoreCall) :
    (∀ a ∈ ((DirectoryStore.file store).serve [call] h).1, a.Sound) ∧
      store.Ready ((DirectoryStore.file store).serve [call] h).2.disk := by
  rw [serve_file]
  split
  case h_1 a planned =>
    refine ⟨List.forall_mem_singleton.mpr fun text failed => ?_, ready⟩
    cases loaded : store.load h.disk with
    | error fault =>
        rw [loaded, plan_error] at planned
        cases planned
        rw [fault?_failure] at failed
        cases failed
        exact ready.load loaded
    | ok entries =>
        rw [loaded] at planned
        rw [fault?_of_answer planned] at failed
        cases failed
  case h_2 u planned =>
    obtain ⟨_, _, entries, loaded⟩ := update_of_save planned
    rw [loaded] at planned
    obtain ⟨saved, done, later⟩ := ready.save u.entries
    rw [done]
    refine ⟨List.forall_mem_singleton.mpr fun text failed => ?_, later⟩
    rw [fault?_of_save planned] at failed
    cases failed

theorem Ready.serve {h : Holdings} (ready : store.Ready h.disk) (calls : List StoreCall) :
    ∀ a ∈ ((DirectoryStore.file store).serve calls h).1, a.Sound := by
  induction calls generalizing h with
  | nil => nofun
  | cons call rest ih =>
      obtain ⟨own, later⟩ := ready.call call
      rw [← List.singleton_append, serve_append]
      exact List.forall_mem_append.mpr ⟨own, ih later⟩

/-- A store in a file answers as one in memory that began with what the file held. Updates that
come together count one after another, and none of them is lost. While the file cannot be loaded
every call is refused, and the file stays as it is. Where nothing is in the way, no call fails. -/
theorem durable_map (opened : create before home path = .ok (store, first)) :
    (∀ content, before.read store.path = .ok content → first.read store.path = .ok content) ∧
    (∀ start, store.load first = .ok start →
      (∀ log last, Run home path store ⟨first, .free⟩ log last → (∀ a ∈ log, a.call.Timely) →
        (memory.serve (log.map (·.call)) { memory := start }).1 = log ∧
        ∀ loaded, store.load last.disk = .ok loaded →
          (memory.serve (log.map (·.call)) { memory := start }).2.memory = loaded) ∧
      ∀ calls, (∀ call ∈ calls, call.Timely) →
        (∀ a ∈ ((file store).serve calls { disk := first }).1, a.Sound) →
        ((file store).serve calls { disk := first }).1 =
          (memory.serve calls { memory := start }).1) ∧
    (store.Spoilt first → ∀ log last, Run home path store ⟨first, .free⟩ log last →
      last.disk = first ∧ ∀ a ∈ log, Refused a) ∧
    (∀ h call, store.Spoilt h.disk → ∃ a, (file store).serve [call] h = ([a], h) ∧ Refused a) ∧
    (∀ calls h, (∀ a ∈ ((file store).serve calls h).1, a.Sound) →
      Run home path store ⟨h.disk, .free⟩ ((file store).serve calls h).1
        ⟨((file store).serve calls h).2.disk, .free⟩) ∧
    ∀ calls h, store.Ready h.disk → ∀ a ∈ ((file store).serve calls h).1, a.Sound := by
  refine ⟨fun content => (create_gives opened).1.read, fun start loaded => ⟨?_, ?_⟩, ?_,
    fun h call spoilt => serve_spoilt spoilt call, run_serve,
    fun calls h ready => ready.serve calls⟩
  · intro log last ran timely
    obtain ⟨after, agrees, has⟩ := (has_loaded loaded).run opened ran timely
    rw [agrees]
    refine ⟨rfl, fun now read => ?_⟩
    have same : store.load last.disk = .ok after := by
      apply has.load_eq
      intro text failed
      cases read.symm.trans failed
    cases read.symm.trans same
    rfl
  · intro calls timely sound
    have made := map_call_serve (file store) calls { disk := first }
    have mine : ∀ a ∈ ((file store).serve calls { disk := first }).1, a.call.Timely := by
      intro a member
      apply timely
      rw [← made]
      exact List.mem_map_of_mem member
    obtain ⟨after, agrees, _⟩ :=
      (has_loaded loaded).run opened (run_serve calls { disk := first } sound) mine
    rw [Agrees, made] at agrees
    rw [agrees]
  · intro spoilt log last ran
    obtain ⟨rfl, refused⟩ := ran.spoilt spoilt opened
    exact ⟨rfl, refused⟩

/-! A put, with one who looks for it before it counts and after, and a file that was torn. -/

def acme : Entry := { tenant := "acme", address := "https://acme", secret := "\"" }

def filed : Update := ⟨.put acme, .ofList [("acme", acme)], .ok ()⟩

def shelf : FileStore := ⟨"/d/e"⟩

def shelved : Disk := { nodes := .ofList [("/d", .directory)] }

def drafted : Disk := shelved.setNode ["d", "e.tmp"] (.file filed.entries.encode)

def named : Disk :=
  (drafted.removeNode ["d", "e.tmp"]).setNode ["d", "e"] (.file filed.entries.encode)

def torn : Disk := shelved.setNode ["d", "e"] (.file [0x7b])

theorem shelf_opened : create {} "/h" "/d/e" = .ok (shelf, shelved) := by
  have same : Disk.expandHome "/h" "/d/e" = "/d/e" := by decide +kernel
  have above : Disk.parent? "/d/e" = some "/d" := by decide +kernel
  have made : ({} : Disk).makeAll "/d" = .ok shelved := by decide +kernel
  simp only [create, same, above, made]
  rfl

theorem shelf_ready : shelf.Ready shelved where
  file := ⟨⟨["d", "e"], by decide +kernel⟩, by decide +kernel⟩
  draft := ⟨⟨["d", "e.tmp"], by decide +kernel⟩, by decide +kernel⟩

theorem acme_timely : (StoreCall.put acme).Timely := by
  have epoch : acme.createdAt.Valid := ⟨by decide, by decide, by decide, by decide, by decide⟩
  exact ⟨_, Timestamp.parse_render epoch⟩

theorem shelf_run : Run "/h" "/d/e" shelf ⟨shelved, .free⟩
    [⟨.get "acme", .ok none⟩, filed.answered, ⟨.get "acme", .ok (some acme)⟩] ⟨named, .free⟩ := by
  have missing : shelf.load shelved = .ok ∅ := by
    have read : shelved.read shelf.path = .error .noEntry := by decide +kernel
    simp only [load, read]
  have unseen : shelf.load drafted = .ok ∅ := by
    have read : drafted.read shelf.path = .error .noEntry := by decide +kernel
    simp only [load, read]
  have planned : (StoreCall.put acme).plan (shelf.load shelved) = .save filed := by
    rw [missing]
    rfl
  have wrote : shelved.write shelf.draft filed.entries.encode = .ok drafted := by decide +kernel
  have moved : drafted.rename shelf.draft shelf.path = .ok named := by decide +kernel
  have beside : shelf.ownDraft shelved = false := by decide +kernel
  have seen : shelf.load named = .ok filed.entries := by
    have timely : filed.entries.Timely :=
      timely_of_save Entries.timely_empty acme_timely (missing ▸ planned)
    exact load_of_saved timely ((Disk.rename_changes moved).2 _ (Disk.read_write wrote))
  have began : Run "/h" "/d/e" shelf ⟨shelved, .free⟩ [] ⟨shelved, .planned filed⟩ :=
    .single (.plan (.put acme) planned)
  have laid : Run "/h" "/d/e" shelf ⟨shelved, .planned filed⟩ [] ⟨drafted, .drafted filed⟩ := by
    have stepped : Run "/h" "/d/e" shelf ⟨shelved, .planned filed⟩ _ ⟨drafted, .drafted filed⟩ :=
      .single (.draft wrote)
    rw [beside] at stepped
    exact stepped
  have early : Run "/h" "/d/e" shelf ⟨drafted, .drafted filed⟩ [⟨.get "acme", .ok none⟩]
      ⟨drafted, .drafted filed⟩ :=
    .single (.answer (.get "acme") nofun (by rw [unseen]; rfl) nofun)
  have counted : Run "/h" "/d/e" shelf ⟨drafted, .drafted filed⟩ [filed.answered]
      ⟨named, .free⟩ := by
    have stepped : Run "/h" "/d/e" shelf ⟨drafted, .drafted filed⟩ _ ⟨named, .free⟩ :=
      .single (.rename moved)
    rw [ownDraft_of_alike (Disk.alike_write wrote), beside] at stepped
    exact stepped
  have late : Run "/h" "/d/e" shelf ⟨named, .free⟩ [⟨.get "acme", .ok (some acme)⟩]
      ⟨named, .free⟩ :=
    .single (.answer (.get "acme") nofun (by rw [seen]; rfl) nofun)
  exact began.append (laid.append (early.append (counted.append late)))

theorem torn_spoilt : shelf.Spoilt torn := by
  refine ⟨[0x7b], by decide +kernel, nofun, fun entries read => ?_⟩
  have unread : (Json.parse Entries.decoder [0x7b]).isOk = false := by decide +kernel
  rw [read] at unread
  cases unread

theorem durable_map_overlapping :
    (memory.serve [.get "acme", .put acme, .get "acme"] {}).1 =
      [⟨.get "acme", .ok none⟩, ⟨.put acme, .ok ()⟩, ⟨.get "acme", .ok (some acme)⟩] ∧
    ((file shelf).serve [.put acme, .delete "acme", .get "acme"] { disk := shelved }).1 =
      (memory.serve [.put acme, .delete "acme", .get "acme"] {}).1 ∧
    ∃ a, (file shelf).serve [.delete "acme"] { disk := torn } = ([a], { disk := torn }) ∧
      Refused a := by
  obtain ⟨_, serves, _, refuses, _, sound⟩ := durable_map shelf_opened
  have missing : shelf.load shelved = .ok ∅ := by
    have read : shelved.read shelf.path = .error .noEntry := by decide +kernel
    simp only [load, read]
  refine ⟨((serves ∅ missing).1 _ _ shelf_run ?_).1,
    (serves ∅ missing).2 _ ?_ (sound _ _ shelf_ready), refuses _ _ torn_spoilt⟩
  · simp only [List.forall_mem_cons]
    exact ⟨trivial, acme_timely, trivial, nofun⟩
  · simp only [List.forall_mem_cons]
    exact ⟨acme_timely, trivial, trivial, nofun⟩

end FileStore
end TenantRelay
