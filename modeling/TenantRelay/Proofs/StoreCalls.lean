import TenantRelay.Directory.Holdings
import TenantRelay.Proofs.DirectoryFile

/-!
Calls on a store of entries. What a call comes to is decided by the entries there are: it is
answered at once, or other entries are to be kept first. A store in memory and one in a file
differ only in where these entries are.
-/

namespace TenantRelay

inductive StoreCall where
  | get (tenant : String)
  | put (entry : Entry)
  | delete (tenant : String)
  | ping

namespace StoreCall

abbrev Answer : StoreCall → Type
  | get _ => Except DirectoryError (Option Entry)
  | put _ => Except DirectoryError Unit
  | delete _ => Except DirectoryError Bool
  | ping => Except DirectoryError Unit

def make (store : DirectoryStore) (h : Holdings) : (call : StoreCall) → call.Answer × Holdings
  | get tenant => (store.get tenant h, h)
  | put entry => store.put entry h
  | delete tenant => store.delete tenant h
  | ping => (store.ping h, h)

def failure (fault : DirectoryError) : (call : StoreCall) → call.Answer
  | get _ => .error fault
  | put _ => .error fault
  | delete _ => .error fault
  | ping => .error fault

def updates : StoreCall → Bool
  | put _ => true
  | delete _ => true
  | _ => false

def Timely : StoreCall → Prop
  | put entry => ∃ text, Timestamp.parse text = .ok entry.createdAt
  | _ => True

end StoreCall

structure Answered where
  call : StoreCall
  answer : call.Answer

def Answered.fault? : Answered → Option DirectoryError
  | ⟨.get _, .error e⟩ => some e
  | ⟨.put _, .error e⟩ => some e
  | ⟨.delete _, .error e⟩ => some e
  | ⟨.ping, .error e⟩ => some e
  | _ => none

def Answered.Sound (a : Answered) : Prop := ∀ text, a.fault? ≠ some (.io text)

def DirectoryStore.serve (store : DirectoryStore) :
    List StoreCall → Holdings → List Answered × Holdings
  | [], h => ([], h)
  | call :: rest, h =>
    let (answer, h) := call.make store h
    let (later, h) := store.serve rest h
    (⟨call, answer⟩ :: later, h)

theorem DirectoryStore.serve_append (store : DirectoryStore) (first rest : List StoreCall)
    (h : Holdings) :
    store.serve (first ++ rest) h =
      ((store.serve first h).1 ++ (store.serve rest (store.serve first h).2).1,
        (store.serve rest (store.serve first h).2).2) := by
  induction first generalizing h with
  | nil => rfl
  | cons call first ih =>
      have later := ih (call.make store h).2
      simp only [List.cons_append, serve, later]

theorem DirectoryStore.map_call_serve (store : DirectoryStore) (calls : List StoreCall)
    (h : Holdings) : (store.serve calls h).1.map (·.call) = calls := by
  induction calls generalizing h with
  | nil => rfl
  | cons call rest ih => exact congrArg (call :: ·) (ih (call.make store h).2)

/-- Entries to be kept, and what the call that wants it is answered then. -/
structure Update where
  call : StoreCall
  entries : Entries
  answer : call.Answer

def Update.answered (u : Update) : Answered := ⟨u.call, u.answer⟩

inductive StorePlan where
  | answer (a : Answered)
  | save (u : Update)

namespace StoreCall

def plan (loaded : Except DirectoryError Entries) : StoreCall → StorePlan
  | get tenant => .answer ⟨get tenant, loaded.map fun entries => entries.find? tenant⟩
  | ping => .answer ⟨ping, loaded.map fun _ => ()⟩
  | put entry =>
    match loaded with
    | .error fault => .answer ⟨put entry, .error fault⟩
    | .ok entries => .save ⟨put entry, entries.insert entry.tenant entry, .ok ()⟩
  | delete tenant =>
    match loaded with
    | .error fault => .answer ⟨delete tenant, .error fault⟩
    | .ok entries =>
      if entries.contains tenant then .save ⟨delete tenant, entries.erase tenant, .ok true⟩
      else .answer ⟨delete tenant, .ok false⟩

variable {call : StoreCall} {loaded : Except DirectoryError Entries}

theorem plan_error (fault : DirectoryError) :
    call.plan (.error fault) = .answer ⟨call, call.failure fault⟩ := by
  cases call <;> rfl

theorem fault?_failure (call : StoreCall) (fault : DirectoryError) :
    Answered.fault? ⟨call, call.failure fault⟩ = some fault := by
  cases call <;> rfl

theorem call_of_answer {a : Answered} (planned : call.plan loaded = .answer a) : a.call = call := by
  cases call with
  | get tenant => cases planned; rfl
  | ping => cases planned; rfl
  | put entry =>
      cases loaded with
      | error fault => cases planned; rfl
      | ok entries => cases planned
  | delete tenant =>
      cases loaded with
      | error fault => cases planned; rfl
      | ok entries =>
          simp only [plan] at planned
          split at planned
          case isTrue => cases planned
          case isFalse => cases planned; rfl

theorem update_of_save {u : Update} (planned : call.plan loaded = .save u) :
    u.call = call ∧ call.updates = true ∧ ∃ entries, loaded = .ok entries := by
  cases call with
  | get tenant => cases planned
  | ping => cases planned
  | put entry =>
      cases loaded with
      | error fault => cases planned
      | ok entries => cases planned; exact ⟨rfl, rfl, entries, rfl⟩
  | delete tenant =>
      cases loaded with
      | error fault => cases planned
      | ok entries =>
          simp only [plan] at planned
          split at planned
          case isTrue => cases planned; exact ⟨rfl, rfl, entries, rfl⟩
          case isFalse => cases planned

theorem fault?_of_answer {entries : Entries} {a : Answered}
    (planned : call.plan (.ok entries) = .answer a) : a.fault? = none := by
  cases call with
  | get tenant => cases planned; rfl
  | ping => cases planned; rfl
  | put entry => cases planned
  | delete tenant =>
      simp only [plan] at planned
      split at planned
      case isTrue => cases planned
      case isFalse => cases planned; rfl

theorem fault?_of_save {entries : Entries} {u : Update}
    (planned : call.plan (.ok entries) = .save u) : u.answered.fault? = none := by
  cases call with
  | get tenant => cases planned
  | ping => cases planned
  | put entry => cases planned; rfl
  | delete tenant =>
      simp only [plan] at planned
      split at planned
      case isTrue => cases planned; rfl
      case isFalse => cases planned

theorem timely_of_save {entries : Entries} {u : Update} (timely : entries.Timely)
    (own : call.Timely) (planned : call.plan (.ok entries) = .save u) : u.entries.Timely := by
  cases call with
  | get tenant => cases planned
  | ping => cases planned
  | put entry =>
      cases planned
      obtain ⟨text, read⟩ := own
      exact timely.insert (Timestamp.valid_of_parse read) entry.tenant
  | delete tenant =>
      simp only [plan] at planned
      split at planned
      case isTrue => cases planned; exact timely.erase tenant
      case isFalse => cases planned

end StoreCall

namespace DirectoryStore

open StoreCall

theorem erase_absent {entries : Entries} {tenant : String}
    (absent : ¬entries.contains tenant = true) : KeyMap.erase entries tenant = entries := by
  apply KeyMap.ext_find?
  intro key
  rw [KeyMap.find?_erase]
  split
  case isTrue same =>
    rw [KeyMap.contains, Bool.not_eq_true, Option.isSome_eq_false_iff, Option.isNone_iff_eq_none]
      at absent
    rw [same, absent]
  case isFalse => rfl

theorem serve_memory (call : StoreCall) (h : Holdings) :
    memory.serve [call] h = match call.plan (.ok h.memory) with
      | .answer a => ([a], h)
      | .save u => ([u.answered], { h with memory := u.entries }) := by
  cases call with
  | get tenant => rfl
  | ping => rfl
  | put entry => rfl
  | delete tenant =>
      cases known : h.memory.contains tenant with
      | true => simp only [serve, make, delete, plan, known, ↓reduceIte, Update.answered]
      | false =>
          have absent : ¬h.memory.contains tenant = true := Bool.eq_false_iff.mp known
          simp only [serve, make, delete, plan, known, Bool.false_eq_true, ↓reduceIte,
            erase_absent absent]

/-- A store in a file does as is planned too, unless what it plans cannot be saved. -/
theorem serve_file (store : FileStore) (call : StoreCall) (h : Holdings) :
    (file store).serve [call] h = match call.plan (store.load h.disk) with
      | .answer a => ([a], h)
      | .save u => match store.save u.entries h.disk with
        | (.ok (), disk) => ([u.answered], { h with disk })
        | (.error e, disk) => ([⟨u.call, u.call.failure e⟩], { h with disk }) := by
  cases call with
  | get tenant => rfl
  | ping => rfl
  | put entry =>
      cases loaded : store.load h.disk with
      | error fault => simp only [serve, make, put, FileStore.put, loaded, onDisk, plan]
      | ok entries =>
          simp only [serve, make, put, FileStore.put, loaded, onDisk, plan]
          obtain ⟨result, disk⟩ := store.save (entries.insert entry.tenant entry) h.disk
          cases result <;> rfl
  | delete tenant =>
      cases loaded : store.load h.disk with
      | error fault => simp only [serve, make, delete, FileStore.delete, loaded, onDisk, plan]
      | ok entries =>
          simp only [serve, make, delete, FileStore.delete, loaded, onDisk, plan]
          cases known : entries.contains tenant with
          | false => simp only [Bool.false_eq_true, ↓reduceIte]
          | true =>
              simp only [↓reduceIte]
              obtain ⟨result, disk⟩ := store.save (entries.erase tenant) h.disk
              cases result <;> rfl

end DirectoryStore
end TenantRelay
