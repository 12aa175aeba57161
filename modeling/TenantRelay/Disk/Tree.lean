import TenantRelay.KeyMap
import TenantRelay.Text.Utf8

/-! Files and the directories they are in, as far as reading, writing and renaming
files needs them. -/

namespace TenantRelay

inductive DiskFault where
  | noEntry
  | fileExists
  | notDirectory
  | isDirectory
  | nameTooLong
  | nul
deriving DecidableEq

def DiskFault.message : DiskFault → String
  | noEntry => "No such file or directory (os error 2)"
  | fileExists => "File exists (os error 17)"
  | notDirectory => "Not a directory (os error 20)"
  | isDirectory => "Is a directory (os error 21)"
  | nameTooLong => "File name too long (os error 36)"
  | nul => "file name contained an unexpected NUL byte"

inductive DiskNode where
  | directory
  | file (content : Bytes)
deriving DecidableEq

/-- Nodes by their absolute paths, written without a slash at the end; the root is
always there. Paths that do not start with a slash are looked up in `working`. -/
structure Disk where
  nodes : KeyMap DiskNode := ∅
  working : List String := []
deriving DecidableEq

namespace Disk

def key (steps : List String) : String := String.join (steps.map ("/" ++ ·))

def node? (disk : Disk) (steps : List String) : Option DiskNode :=
  if steps.isEmpty then some .directory else disk.nodes.find? (key steps)

def setNode (disk : Disk) (steps : List String) (node : DiskNode) : Disk :=
  { disk with nodes := disk.nodes.insert (key steps) node }

def removeNode (disk : Disk) (steps : List String) : Disk :=
  { disk with nodes := disk.nodes.erase (key steps) }

def parts (path : String) : List String :=
  ((path.toList.splitOn '/').map String.ofList).filter fun part => part != "" && part != "."

/-- A path that ends in a slash or a dot stands for a directory only. -/
def wantsDirectory (path : String) : Bool := path.endsWith "/" || path.endsWith "/."

def step (disk : Disk) (base : List String) (part : String) : Except DiskFault (List String) :=
  match disk.node? base with
  | none => .error .noEntry
  | some (.file _) => .error .notDirectory
  | some .directory =>
    if part.utf8ByteSize > 255 then .error .nameTooLong
    else if part = ".." then .ok base.dropLast
    else .ok (base ++ [part])

def locate (disk : Disk) (path : String) : Except DiskFault (List String) :=
  if path = "" then .error .noEntry
  else if path.toList.contains '\x00' then .error .nul
  else if path.utf8ByteSize ≥ 4096 then .error .nameTooLong
  else (parts path).foldlM (step disk) (if path.startsWith "/" then [] else disk.working)

def read (disk : Disk) (path : String) : Except DiskFault Bytes := do
  let place ← disk.locate path
  match disk.node? place with
  | none => throw .noEntry
  | some .directory => throw .isDirectory
  | some (.file content) => if wantsDirectory path then throw .notDirectory else return content

def write (disk : Disk) (path : String) (content : Bytes) : Except DiskFault Disk := do
  let place ← disk.locate path
  let above := disk.node? place.dropLast
  match disk.node? place, above with
  | some .directory, _ => throw .isDirectory
  | some (.file _), _ =>
    if wantsDirectory path then throw .notDirectory else return disk.setNode place (.file content)
  | none, none => throw .noEntry
  | none, some (.file _) => throw .notDirectory
  | none, some .directory =>
    if wantsDirectory path then throw .isDirectory else return disk.setNode place (.file content)

def rename (disk : Disk) (source target : String) : Except DiskFault Disk := do
  let place ← disk.locate source
  let goal ← disk.locate target
  match disk.node? place with
  | none => throw .noEntry
  | some .directory => throw .isDirectory
  | some (.file content) =>
    match disk.node? goal with
    | some .directory => throw .isDirectory
    | _ =>
      if wantsDirectory target then throw .notDirectory
      else if place = goal then return disk
      else return (disk.removeNode place).setNode goal (.file content)

def remove (disk : Disk) (path : String) : Except DiskFault Disk := do
  let place ← disk.locate path
  match disk.node? place with
  | none => throw .noEntry
  | some .directory => throw .isDirectory
  | some (.file _) =>
    if wantsDirectory path then throw .notDirectory else return disk.removeNode place

def makeAll (disk : Disk) (path : String) : Except DiskFault Disk :=
  let start := if path.startsWith "/" then [] else disk.working
  let rec go (disk : Disk) (base : List String) : List String → Except DiskFault Disk
    | [] => .ok disk
    | part :: rest => do
      let place ← disk.step base part
      match disk.node? place with
      | some .directory => go disk place rest
      | some (.file _) => if rest.isEmpty then throw .fileExists else throw .notDirectory
      | none => go (disk.setNode place .directory) place rest
  if path.toList.contains '\x00' then .error .nul else go disk start (parts path)

def list (disk : Disk) (path : String) : List String :=
  match disk.locate path with
  | .error _ => []
  | .ok place =>
    let front := key place ++ "/"
    (disk.nodes.keys.filter (·.startsWith front)).filterMap fun name =>
      let rest := String.ofList (name.toList.drop front.length)
      if rest.toList.contains '/' || rest == "" then none else some rest

end Disk
end TenantRelay
