import TenantRelay.Document.Tree

/-! Tables as a TOML text builds them up, key by key. What was said about a table
settles what may still be said about it. -/

namespace TenantRelay.Document.Toml

inductive Fault where
  | badCharacter
  | badKey
  | badValue
  | badText
  | badEnd
  | repeated
deriving DecidableEq

def Fault.message : Fault → String
  | badCharacter => "invalid character"
  | badKey => "invalid key"
  | badValue => "invalid value"
  | badText => "invalid string"
  | badEnd => "expected newline or end of input"
  | repeated => "duplicate key"

/-- How a table came about. -/
inductive Origin where
  /-- It is on the way to another table. -/
  | implied
  /-- It is on the way to a key. -/
  | dotted
  | header
deriving DecidableEq

inductive Node where
  | leaf (tree : Tree)
  | table (origin : Origin) (members : List (String × Node))
  | tables (all : List (List (String × Node)))

abbrev Members := List (String × Node)

namespace Node

def set (key : String) (node : Node) : Members → Members
  | [] => [(key, node)]
  | (other, old) :: rest =>
    if other = key then (key, node) :: rest else (other, old) :: set key node rest

def insert (tree : Tree) : List String → Members → Except Fault Members
  | [], _ => .error .badKey
  | [key], members =>
    match members.lookup key with
    | none => .ok (set key (.leaf tree) members)
    | some _ => .error .repeated
  | key :: rest, members =>
    match members.lookup key with
    | none => (insert tree rest []).map fun inner => set key (.table .dotted inner) members
    | some (.table .header _) => .error .repeated
    | some (.table origin inner) =>
      (insert tree rest inner).map fun inner => set key (.table origin inner) members
    | some _ => .error .repeated

def within (change : Members → Except Fault Members) :
    List String → Members → Except Fault Members
  | [], members => change members
  | key :: rest, members =>
    match members.lookup key with
    | none => (within change rest []).map fun inner => set key (.table .implied inner) members
    | some (.table origin inner) =>
      (within change rest inner).map fun inner => set key (.table origin inner) members
    | some (.tables (last :: before)) =>
      (within change rest last).map fun last => set key (.tables (last :: before)) members
    | some _ => .error .repeated

def openTable (key : String) (members : Members) : Except Fault Members :=
  match members.lookup key with
  | none => .ok (set key (.table .header []) members)
  | some (.table .implied inner) => .ok (set key (.table .header inner) members)
  | some _ => .error .repeated

def openList (key : String) (members : Members) : Except Fault Members :=
  match members.lookup key with
  | none => .ok (set key (.tables [[]]) members)
  | some (.tables all) => .ok (set key (.tables ([] :: all)) members)
  | some _ => .error .repeated

mutual

def toTree : Node → Tree
  | .leaf tree => tree
  | .table _ members => .obj (membersTree members) none
  | .tables all => .arr (tablesTree all []) none

def membersTree : Members → List (Key × Tree)
  | [] => []
  | (key, node) :: rest => (.ok key, toTree node) :: membersTree rest

def tablesTree : List Members → List Tree → List Tree
  | [], trees => trees
  | members :: rest, trees => tablesTree rest (.obj (membersTree members) none :: trees)

end

end Node
end TenantRelay.Document.Toml
