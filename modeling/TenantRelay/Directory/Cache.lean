import TenantRelay.Directory.Entry
import TenantRelay.Time.Span

/-!
Entries kept in memory for a while. They grow old together: the time of the first
entry counts for all that come after it, and the first lookup past the limit empties
the cache. Every removal starts a new generation, by which a reader of the store
learns that what it read may be out of date. Generations are counted with 64 bits, so
after so many of them the first one comes again.
-/

namespace TenantRelay

open Text

/-! Outside, a generation is told and given back as a number. -/

instance generationToNat : Coe UInt64 Nat := ⟨UInt64.toNat⟩

instance generationOfNat : Coe Nat UInt64 := ⟨UInt64.ofNat⟩

/-- Times are in milliseconds. -/
structure Cache where
  ttl : Nat := 10000
  entries : KeyMap Entry := ∅
  refreshedAt : Option Nat := none
  generation : UInt64 := 0

inductive Lookup where
  | hit (entry : Entry)
  | miss
  | expired
deriving DecidableEq

namespace Cache

variable (c : Cache)

def isStale (now : Nat) : Bool := c.refreshedAt.any fun start => start + c.ttl ≤ now

def clear : Cache :=
  { c with entries := ∅, refreshedAt := none, generation := c.generation + 1 }

def peek (tenant : String) : Lookup :=
  match c.entries.find? tenant with
  | some entry => .hit entry
  | none => .miss

def lookup (now : Nat) (tenant : String) : Lookup × Cache :=
  if c.isStale now then (.expired, c.clear) else (c.peek tenant, c)

def insert (now : Nat) (entry : Entry) : Cache :=
  { c with
    entries := c.entries.insert entry.tenant entry
    refreshedAt := if c.entries.isEmpty then some now else c.refreshedAt }

/-- Keeps what was read at a generation only if nothing was removed since. -/
def fill (now : Nat) (entry : Entry) (generation : UInt64) : Bool × Cache :=
  if c.generation = generation then (true, c.insert now entry) else (false, c)

def remove (tenant : String) : Bool × Cache :=
  (c.entries.contains tenant,
    { c with entries := c.entries.erase tenant, generation := c.generation + 1 })

def size : Nat := c.entries.size

def shown : String :=
  shownRecord "DirectoryCache" [("ttl", Span.shown c.ttl), ("entries", toString c.size)]

theorem find?_insert (now : Nat) (entry : Entry) (tenant : String) :
    (c.insert now entry).entries.find? tenant =
      if tenant = entry.tenant then some entry else c.entries.find? tenant := by
  simp only [insert, KeyMap.find?_insert]

theorem find?_remove (tenant key : String) :
    (c.remove tenant).2.entries.find? key =
      if key = tenant then none else c.entries.find? key := by
  simp only [remove, KeyMap.find?_erase]

end Cache
end TenantRelay
