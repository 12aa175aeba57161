import TenantRelay.Directory.Entry
import TenantRelay.Directory.Error
import TenantRelay.Disk.Path
import TenantRelay.Disk.Tree
import TenantRelay.Json.Reader

/-!
Where entries are kept for good: in memory, or in one file that holds them all. The
file is never changed in place. A new one is written beside it and then takes its
name, so a reader finds the old content or the new one.
-/

namespace TenantRelay

open Document

abbrev Entries := KeyMap Entry

namespace Entries

def decoder : Decoder Entries := Decoder.map Entry.decoder

def toJson (entries : Entries) : Json := .ofDict (entries.map Entry.toJson)

def encode (entries : Entries) : Bytes := Text.Utf8.encode entries.toJson.pretty

def decode (content : Bytes) : Except DirectoryError Entries :=
  if content.isEmpty then .ok ∅
  else (Json.parse decoder content).mapError fun e =>
    .store ("invalid directory file: " ++ e.message)

end Entries

structure FileStore where
  path : String

namespace FileStore

def diskError (fault : DiskFault) : DirectoryError := .io fault.message

def create (disk : Disk) (home path : String) : Except DirectoryError (FileStore × Disk) := do
  let path := Disk.expandHome home path
  match Disk.parent? path with
  | none => return (⟨path⟩, disk)
  | some above =>
    if above = "" then return (⟨path⟩, disk)
    else
      let disk ← (disk.makeAll above).mapError diskError
      return (⟨path⟩, disk)

/-- A file that is not there holds no entries. -/
def load (store : FileStore) (disk : Disk) : Except DirectoryError Entries :=
  match disk.read store.path with
  | .ok content => Entries.decode content
  | .error .noEntry => .ok ∅
  | .error fault => .error (diskError fault)

/-- The file that is written before it takes the name of the store's. -/
def draft (store : FileStore) : String := Disk.withExtension store.path "tmp"

def save (store : FileStore) (entries : Entries) (disk : Disk) :
    Except DirectoryError Unit × Disk :=
  match disk.write store.draft entries.encode with
  | .error fault => (.error (diskError fault), disk)
  | .ok written =>
    match written.rename store.draft store.path with
    | .error fault => (.error (diskError fault), written)
    | .ok renamed => (.ok (), renamed)

def get (store : FileStore) (tenant : String) (disk : Disk) :
    Except DirectoryError (Option Entry) :=
  (store.load disk).map fun entries => entries.find? tenant

def put (store : FileStore) (entry : Entry) (disk : Disk) : Except DirectoryError Unit × Disk :=
  match store.load disk with
  | .error e => (.error e, disk)
  | .ok entries => store.save (entries.insert entry.tenant entry) disk

def delete (store : FileStore) (tenant : String) (disk : Disk) :
    Except DirectoryError Bool × Disk :=
  match store.load disk with
  | .error e => (.error e, disk)
  | .ok entries =>
    if entries.contains tenant then
      match store.save (entries.erase tenant) disk with
      | (.ok (), disk) => (.ok true, disk)
      | (.error e, disk) => (.error e, disk)
    else (.ok false, disk)

def ping (store : FileStore) (disk : Disk) : Except DirectoryError Unit :=
  (store.load disk).map fun _ => ()

end FileStore
end TenantRelay
