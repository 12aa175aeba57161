import TenantRelay.Directory.Store

/-! The kinds of stores, seen from whoever only wants entries kept. -/

namespace TenantRelay

/-- All that stores keep their entries in. -/
structure Holdings where
  memory : Entries := ∅
  disk : Disk := {}

inductive DirectoryStore where
  | memory
  | file (store : FileStore)

namespace DirectoryStore

def onDisk {α : Type} (h : Holdings) (result : α × Disk) : α × Holdings :=
  (result.1, { h with disk := result.2 })

def get (tenant : String) (h : Holdings) : DirectoryStore → Except DirectoryError (Option Entry)
  | memory => .ok (h.memory.find? tenant)
  | file store => store.get tenant h.disk

def put (entry : Entry) (h : Holdings) : DirectoryStore → Except DirectoryError Unit × Holdings
  | memory => (.ok (), { h with memory := h.memory.insert entry.tenant entry })
  | file store => onDisk h (store.put entry h.disk)

def delete (tenant : String) (h : Holdings) :
    DirectoryStore → Except DirectoryError Bool × Holdings
  | memory => (.ok (h.memory.contains tenant), { h with memory := h.memory.erase tenant })
  | file store => onDisk h (store.delete tenant h.disk)

def ping (h : Holdings) : DirectoryStore → Except DirectoryError Unit
  | memory => .ok ()
  | file store => store.ping h.disk

end DirectoryStore
end TenantRelay
