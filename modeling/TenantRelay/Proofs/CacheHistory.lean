import TenantRelay.Proofs.Transparency

/-!
What a cache answers, said without the cache: by what was done to it, and when. An entry is told
for as long as it was neither replaced nor taken out. All entries are dropped together, at the first
lookup after the limit has passed since an entry last came into a cache without any.
-/

namespace TenantRelay

inductive CacheCall where
  | get (tenant : String)
  | insert (entry : Entry)
  | fill (entry : Entry) (generation : UInt64)
  | remove (tenant : String)
  | clear
  | wait (span : Nat)

namespace CacheCall

abbrev Answer : CacheCall → Type
  | get _ => Lookup
  | fill _ _ => Bool
  | remove _ => Bool
  | _ => Unit

def make (now : Nat) (c : Cache) : (call : CacheCall) → call.Answer × Cache
  | get tenant => c.lookup now tenant
  | insert entry => ((), c.insert now entry)
  | fill entry generation => c.fill now entry generation
  | remove tenant => c.remove tenant
  | clear => ((), c.clear)
  | wait _ => ((), c)

def span : CacheCall → Nat
  | wait span => span
  | _ => 0

end CacheCall

/-- A call, when it was made and what it was answered. -/
structure CacheEvent where
  call : CacheCall
  time : Nat
  answer : call.Answer

inductive CacheChange where
  | nothing
  | inserted (entry : Entry)
  | removed (tenant : String)
  | emptied

/-- A call is known by its answer: a fill may be refused, and a lookup may empty the cache. -/
def CacheEvent.change : CacheEvent → CacheChange
  | ⟨.insert entry, _, _⟩ => .inserted entry
  | ⟨.fill entry _, _, true⟩ => .inserted entry
  | ⟨.remove tenant, _, _⟩ => .removed tenant
  | ⟨.clear, _, _⟩ => .emptied
  | ⟨.get _, _, .expired⟩ => .emptied
  | _ => .nothing

def CacheChange.apply (now : Nat) (c : Cache) : CacheChange → Cache
  | nothing => c
  | inserted entry => c.insert now entry
  | removed tenant => (c.remove tenant).2
  | emptied => c.clear

def CacheChange.Ends (tenant : String) : CacheChange → Prop
  | nothing => False
  | inserted entry => entry.tenant = tenant
  | removed other => other = tenant
  | emptied => True

theorem Cache.peek_ne_expired (c : Cache) (tenant : String) : c.peek tenant ≠ .expired := by
  unfold peek
  split <;> nofun

/-- Whatever is done to a cache, it changes as the answer tells. -/
theorem CacheCall.make_change (now : Nat) (c : Cache) (call : CacheCall) :
    (call.make now c).2 = (CacheEvent.change ⟨call, now, (call.make now c).1⟩).apply now c := by
  cases call with
  | get tenant =>
      simp only [make, Cache.lookup]
      split
      case isTrue => rfl
      case isFalse =>
        cases told : c.peek tenant with
        | hit entry => rfl
        | miss => rfl
        | expired => exact absurd told (c.peek_ne_expired tenant)
  | fill entry generation =>
      simp only [make, Cache.fill]
      split <;> rfl
  | _ => rfl

namespace Chronicle

/-! What is said of a cache by its history, the latest call first. -/

/-- It came to be so at some call, and no later one ended it. Of a call is asked what it was and
what had happened before. -/
def Since (began ended : CacheEvent → List CacheEvent → Prop) : List CacheEvent → Prop
  | [] => False
  | e :: past => began e past ∨ ¬ ended e past ∧ Since began ended past

theorem Since.mono {began began' ended ended' : CacheEvent → List CacheEvent → Prop}
    {history : List CacheEvent} (since : Since began ended history)
    (begins : ∀ e past, began e past → began' e past)
    (ends : ∀ e past, ended' e past → ended e past) : Since began' ended' history := by
  induction history with
  | nil => exact since
  | cons e past ih =>
      rcases since with now | ⟨goes, since⟩
      · exact .inl (begins e past now)
      · exact .inr ⟨fun ended => goes (ends e past ended), ih since⟩

/-- The latest entry of the tenant that was put in, and when, if nothing has taken it out since. -/
def Keeps (tenant : String) (entry : Entry) (time : Nat) : List CacheEvent → Prop :=
  Since (fun e _ => e.change = .inserted entry ∧ entry.tenant = tenant ∧ e.time = time)
    fun e _ => e.change.Ends tenant

def InUse : List CacheEvent → Prop :=
  Since (fun e _ => ∃ entry, e.change = .inserted entry) fun e _ => e.change = .emptied

def Opens (e : CacheEvent) (past : List CacheEvent) : Prop :=
  (∃ entry, e.change = .inserted entry) ∧ ∀ tenant entry time, ¬ Keeps tenant entry time past

/-- The latest time at which something was put in where there was nothing. -/
def OpenedAt (time : Nat) : List CacheEvent → Prop :=
  Since (fun e past => Opens e past ∧ e.time = time) Opens

def Due (ttl now : Nat) (history : List CacheEvent) : Prop :=
  InUse history ∧ ∃ time, OpenedAt time history ∧ time + ttl ≤ now

theorem Keeps.inUse {tenant : String} {entry : Entry} {time : Nat} {history : List CacheEvent}
    (keeps : Keeps tenant entry time history) : InUse history := by
  apply keeps.mono
  · rintro e past ⟨inserted, _⟩
    exact ⟨entry, inserted⟩
  · intro e past emptied
    rw [emptied]
    exact trivial

end Chronicle

structure Chronicle where
  cache : Cache
  now : Nat
  history : List CacheEvent := []

namespace Chronicle

def start (ttl now : Nat) : Chronicle := { cache := { ttl }, now }

def make (x : Chronicle) (call : CacheCall) : Chronicle where
  cache := (call.make x.now x.cache).2
  now := x.now + call.span
  history := ⟨call, x.now, (call.make x.now x.cache).1⟩ :: x.history

def run (x : Chronicle) (calls : List CacheCall) : Chronicle := calls.foldl make x

/-- What there is in the cache is what its history says. -/
structure Told (ttl : Nat) (x : Chronicle) : Prop where
  ttl : x.cache.ttl = ttl
  entries : ∀ tenant entry, x.cache.entries.find? tenant = some entry ↔
    ∃ time, Keeps tenant entry time x.history
  opened : ∀ time, x.cache.refreshedAt = some time ↔ InUse x.history ∧ OpenedAt time x.history
  later : ∀ tenant entry time, Keeps tenant entry time x.history →
    ∃ first, x.cache.refreshedAt = some first ∧ first ≤ time
  past : ∀ time, x.cache.refreshedAt = some time → time ≤ x.now

variable {ttl : Nat} {x : Chronicle}

theorem told_start (ttl now : Nat) : Told ttl (start ttl now) where
  ttl := rfl
  entries _ _ := ⟨nofun, nofun⟩
  opened _ := ⟨nofun, nofun⟩
  later _ _ _ := nofun
  past _ := nofun

namespace Told

variable {e : CacheEvent} {now : Nat} {entry : Entry} {tenant : String}

theorem not_keeps (told : x.Told ttl) (empty : x.cache.entries.isEmpty = true) {time : Nat} :
    ¬ Keeps tenant entry time x.history := by
  intro keeps
  have found := (told.entries tenant entry).mpr ⟨time, keeps⟩
  rw [KeyMap.find?, List.isEmpty_iff.mp empty] at found
  cases found

theorem exists_keeps (told : x.Told ttl) (full : x.cache.entries.isEmpty = false) :
    ∃ tenant entry time, Keeps tenant entry time x.history := by
  cases all : x.cache.entries.entries with
  | nil =>
      rw [KeyMap.isEmpty, all] at full
      cases full
  | cons first rest =>
      have found : x.cache.entries.find? first.1 = some first.2 := by
        simp [KeyMap.find?, all, KeyMap.findEntry]
      exact ⟨first.1, first.2, (told.entries _ _).mp found⟩

theorem nothing (told : x.Told ttl) (change : e.change = .nothing) (later : x.now ≤ now) :
    Told ttl ⟨x.cache, now, e :: x.history⟩ where
  ttl := told.ttl
  entries tenant entry := by simp [Keeps, Since, change, CacheChange.Ends, told.entries]
  opened time := by simp [InUse, OpenedAt, Opens, Since, change, told.opened]
  later tenant entry time keeps := by
    apply told.later tenant entry time
    simpa [Keeps, Since, change, CacheChange.Ends] using keeps
  past time opened := Nat.le_trans (told.past time opened) later

theorem removed (told : x.Told ttl) (change : e.change = .removed tenant) (later : x.now ≤ now) :
    Told ttl ⟨(x.cache.remove tenant).2, now, e :: x.history⟩ where
  ttl := told.ttl
  entries key entry := by
    rw [Cache.find?_remove]
    by_cases own : key = tenant
    · simp [Keeps, Since, change, CacheChange.Ends, own]
    · simp [Keeps, Since, change, CacheChange.Ends, own, Ne.symm own, told.entries]
  opened time := by
    simp [Cache.remove, InUse, OpenedAt, Opens, Since, change, told.opened]
  later key entry time keeps := by
    rcases keeps with ⟨none, _⟩ | ⟨_, keeps⟩
    · rw [change] at none
      cases none
    · exact told.later key entry time keeps
  past time opened := Nat.le_trans (told.past time opened) later

theorem emptied (told : x.Told ttl) (change : e.change = .emptied) :
    Told ttl ⟨x.cache.clear, now, e :: x.history⟩ where
  ttl := told.ttl
  entries tenant entry := by
    simp [Keeps, Since, change, CacheChange.Ends, Cache.clear, EmptyCollection.emptyCollection]
  opened time := by simp [InUse, Since, change, Cache.clear]
  later tenant entry time keeps := by
    simp [Keeps, Since, change, CacheChange.Ends] at keeps
  past time opened := by cases opened

theorem keeps_inserted {time : Nat} (change : e.change = .inserted entry) {other : Entry}
    {past : List CacheEvent} : Keeps tenant other time (e :: past) ↔
      if tenant = entry.tenant then other = entry ∧ e.time = time
      else Keeps tenant other time past := by
  split
  case isTrue own =>
    subst own
    simp only [Keeps, Since, change, CacheChange.Ends, not_true_eq_false, false_and, or_false,
      CacheChange.inserted.injEq]
    constructor
    · rintro ⟨rfl, _, now⟩
      exact ⟨rfl, now⟩
    · rintro ⟨rfl, now⟩
      exact ⟨rfl, rfl, now⟩
  case isFalse foreign =>
    simp only [Keeps, Since, change, CacheChange.Ends, CacheChange.inserted.injEq]
    constructor
    · rintro (⟨rfl, own, _⟩ | ⟨_, keeps⟩)
      · exact absurd own.symm foreign
      · exact keeps
    · intro keeps
      exact .inr ⟨Ne.symm foreign, keeps⟩

theorem refreshed (told : x.Told ttl) (change : e.change = .inserted entry) (time : Nat) :
    (x.cache.insert e.time entry).refreshedAt = some time ↔
      InUse (e :: x.history) ∧ OpenedAt time (e :: x.history) := by
  have used : InUse (e :: x.history) := .inl ⟨entry, change⟩
  simp only [used, true_and, OpenedAt, Since, Cache.insert]
  cases empty : x.cache.entries.isEmpty with
  | true =>
      have opens : Opens e x.history := ⟨⟨entry, change⟩, fun _ _ _ => told.not_keeps empty⟩
      simp [opens]
  | false =>
      -- Something is kept, so the time of the latest opening is the one that counts.
      obtain ⟨tenant, kept, _, keeps⟩ := told.exists_keeps empty
      have opens : ¬ Opens e x.history := fun opens => opens.2 _ _ _ keeps
      simp [opens, told.opened, keeps.inUse, OpenedAt]

theorem inserted (told : x.Told ttl) (change : e.change = .inserted entry) (time : e.time = x.now)
    (later : x.now ≤ now) : Told ttl ⟨x.cache.insert e.time entry, now, e :: x.history⟩ where
  ttl := told.ttl
  entries tenant other := by
    simp only [Cache.find?_insert, keeps_inserted change]
    split
    case isTrue => simp [eq_comm]
    case isFalse => exact told.entries tenant other
  opened := told.refreshed change
  later tenant other since keeps := by
    rw [keeps_inserted change] at keeps
    simp only [Cache.insert]
    split at keeps
    case isTrue =>
      rw [← keeps.2, time]
      split
      case isTrue => exact ⟨x.now, rfl, Nat.le_refl _⟩
      case isFalse full =>
        obtain ⟨_, _, _, held⟩ := told.exists_keeps (Bool.eq_false_iff.mpr full)
        obtain ⟨first, opened, _⟩ := told.later _ _ _ held
        exact ⟨first, opened, told.past first opened⟩
    case isFalse =>
      have full : ¬ x.cache.entries.isEmpty = true := fun empty => told.not_keeps empty keeps
      rw [if_neg full]
      exact told.later tenant other since keeps
  past first opened := by
    refine Nat.le_trans ?_ later
    simp only [Cache.insert] at opened
    split at opened
    case isTrue =>
      cases opened
      exact Nat.le_of_eq time
    case isFalse => exact told.past first opened

theorem make (told : x.Told ttl) (call : CacheCall) : Told ttl (x.make call) := by
  have later : x.now ≤ x.now + call.span := Nat.le_add_right _ _
  have made := call.make_change x.now x.cache
  unfold Chronicle.make
  rw [made]
  cases change : CacheEvent.change ⟨call, x.now, (call.make x.now x.cache).1⟩ with
  | nothing => exact told.nothing change later
  | inserted entry => exact told.inserted change rfl later
  | removed tenant => exact told.removed change later
  | emptied => exact told.emptied change

theorem run (told : x.Told ttl) (calls : List CacheCall) : Told ttl (x.run calls) := by
  induction calls generalizing x with
  | nil => exact told
  | cons call rest ih => exact ih (told.make call)

theorem isStale_iff (told : x.Told ttl) :
    x.cache.isStale x.now = true ↔ Due ttl x.now x.history := by
  simp only [Cache.isStale, Option.any_eq_true, told.ttl, told.opened, decide_eq_true_eq, Due,
    and_assoc, exists_and_left]

theorem find?_eq_none (told : x.Told ttl) :
    x.cache.entries.find? tenant = none ↔ ∀ entry time, ¬ Keeps tenant entry time x.history := by
  rw [Option.eq_none_iff_forall_ne_some]
  simp [told.entries]

theorem young (told : x.Told ttl) (fresh : ¬ Due ttl x.now x.history) {time : Nat}
    (keeps : Keeps tenant entry time x.history) : x.now < time + ttl := by
  obtain ⟨first, opened, before⟩ := told.later tenant entry time keeps
  obtain ⟨used, since⟩ := (told.opened first).mp opened
  have early : ¬ first + ttl ≤ x.now := fun up => fresh ⟨used, first, since, up⟩
  omega

end Told

/-- A lookup finds what its history says. All is dropped exactly if the time is up. Before that an
entry is told if and only if it is kept, and nothing is changed. -/
theorem answers_by_history (ttl start : Nat) (calls : List CacheCall) (tenant : String) :
    let x := (Chronicle.start ttl start).run calls
    let found := (CacheCall.get tenant).make x.now x.cache
    (found.1 = .expired ↔ Due ttl x.now x.history) ∧
    (Due ttl x.now x.history → found.2.entries = ∅) ∧
    (¬ Due ttl x.now x.history → found.2 = x.cache) ∧
    (∀ entry, found.1 = .hit entry ↔
      ¬ Due ttl x.now x.history ∧ ∃ time, Keeps tenant entry time x.history) ∧
    (found.1 = .miss ↔
      ¬ Due ttl x.now x.history ∧ ∀ entry time, ¬ Keeps tenant entry time x.history) ∧
    ∀ entry, found.1 = .hit entry →
      ∃ time, Keeps tenant entry time x.history ∧ x.now < time + ttl := by
  intro x found
  have told : x.Told ttl := (told_start ttl start).run calls
  have looked : found = if x.cache.isStale x.now then (.expired, x.cache.clear)
      else (x.cache.peek tenant, x.cache) := rfl
  by_cases due : Due ttl x.now x.history
  · rw [told.isStale_iff.mpr due, if_pos rfl] at looked
    rw [looked]
    simp [due, Cache.clear]
  · have fresh : x.cache.isStale x.now = false :=
      Bool.eq_false_iff.mpr fun stale => due (told.isStale_iff.mp stale)
    rw [fresh, if_neg Bool.false_ne_true, Cache.peek] at looked
    rw [looked]
    cases held : x.cache.entries.find? tenant with
    | none =>
        have gone := told.find?_eq_none.mp held
        simp [due, gone]
    | some entry =>
        obtain ⟨time, keeps⟩ := (told.entries tenant entry).mp held
        have only : ∀ other, (∃ time, Keeps tenant other time x.history) ↔ entry = other := by
          intro other
          rw [← told.entries, held, Option.some.injEq]
        refine ⟨by simp [due], fun up => absurd up due, fun _ => rfl, fun other => ?_, ?_, ?_⟩
        · simp [due, only]
        · simp only [reduceCtorEq, false_iff, not_and]
          exact fun _ gone => gone entry time keeps
        · rintro _ ⟨⟩
          exact ⟨time, keeps, told.young due keeps⟩

def reopening : List CacheCall :=
  -- A tenant is removed, and is put in again into the cache that this left without entries.
  [.insert FairWorld.former, .wait 8, .remove "acme", .insert FairWorld.latter, .wait 9]

theorem answers_by_history_when_reopened :
    let x := (start 10 0).run reopening
    let late := (start 10 0).run (reopening ++ [.wait 1])
    (∃ time, Keeps "acme" FairWorld.latter time x.history ∧ x.now < time + 10) ∧
      ¬ Due 10 x.now x.history ∧ Due 10 late.now late.history ∧
      ((CacheCall.get "acme").make late.now late.cache).2.entries = ∅ := by
  intro x late
  have hit : ((CacheCall.get "acme").make x.now x.cache).1 = .hit FairWorld.latter := by
    decide +kernel
  have expired : ((CacheCall.get "acme").make late.now late.cache).1 = .expired := by
    decide +kernel
  obtain ⟨_, _, _, tells, _, young⟩ := answers_by_history 10 0 reopening "acme"
  obtain ⟨drops, empties, _⟩ := answers_by_history 10 0 (reopening ++ [.wait 1]) "acme"
  have due := drops.mp expired
  exact ⟨young _ hit, ((tells _).mp hit).1, due, empties due⟩

end Chronicle
end TenantRelay
