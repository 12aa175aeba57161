import TenantRelay.Document.Decode
import TenantRelay.Document.Yaml.Scan

/-! The tree that the tokens of a YAML text make. -/

namespace TenantRelay.Document.Yaml

/-- Tokens that are left, and what was given a name so far. -/
structure Parser where
  tokens : List Token
  named : List (List Char × Tree) := []

abbrev Parse := StateT Parser (Except Fault)

namespace Parse

def next? : Parse (Option Token) := return (← get).tokens.head?

def drop : Parse Unit := modify fun p => { p with tokens := p.tokens.drop 1 }

def take (token : Token) : Parse Bool := do
  if (← next?) == some token then
    drop
    return true
  else return false

def nothing : Tree := .plain ""

def scalarTree (text : List Char) (plain : Bool) : Tree :=
  -- A tag does not change what a scalar may be read as; quotes do.
  if plain then .plain (String.ofList text) else .str (String.ofList text)

def properties : Parse (Option (List Char) × Bool) := do
  -- An anchor and a tag come in either order.
  match ← next? with
  | some (.anchor name) =>
    drop
    if let some (.tag _) ← next? then drop
    return (some name, true)
  | some (.tag _) =>
    drop
    match ← next? with
    | some (.anchor name) =>
      drop
      return (some name, true)
    | _ => return (none, true)
  | _ => return (none, false)

def keyOf (tree : Tree) : Key :=
  match tree with
  | .str s => .ok s
  | .plain s => .ok s
  | _ => .error .keyNotText

def remember (name : Option (List Char)) (tree : Tree) : Parse Tree := do
  match name with
  | some name => modify fun p => { p with named := (name, tree) :: p.named }
  | none => pure ()
  return tree

def endsValue (token : Option Token) (ends : List Token) : Bool :=
  match token with
  | none => true
  | some token => ends.contains token

mutual

def node (block indentless : Bool) : Nat → Parse Tree
  | 0 => throw .badStructure
  | budget + 1 => do
    match ← next? with
    | some (.alias name) =>
      drop
      match (← get).named.lookup name with
      | some tree => return tree
      | none => throw .unknownAlias
    | _ =>
      let (anchor, marked) ← properties
      let tree ← content block indentless marked budget
      remember anchor tree

def content (block indentless marked : Bool) : Nat → Parse Tree
  | 0 => throw .badStructure
  | budget + 1 => do
    match ← next? with
    | some (.scalar text plain) =>
      drop
      return scalarTree text plain
    | some .flowSequence =>
      drop
      return .arr (← flowItems true budget) none
    | some .flowMapping =>
      drop
      return .obj (← flowMembers true budget) none
    | some .blockSequence =>
      if !block then throw .badStructure
      drop
      return .arr (← blockItems budget) none
    | some .blockMapping =>
      if !block then throw .badStructure
      drop
      return .obj (← blockMembers budget) none
    | some .blockEntry =>
      if !indentless then throw .badStructure
      return .arr (← bareItems budget) none
    | _ => if marked then return nothing else throw .badStructure

def optional (block indentless : Bool) (ends : List Token) : Nat → Parse Tree
  | 0 => throw .badStructure
  | budget + 1 => do
    if endsValue (← next?) ends then return nothing else node block indentless budget

def blockItems : Nat → Parse (List Tree)
  | 0 => throw .badStructure
  | budget + 1 => do
    if ← take .blockEntry then
      let item ← optional true false [.blockEntry, .blockEnd] budget
      return item :: (← blockItems budget)
    else if ← take .blockEnd then return []
    else throw .badStructure

/-- Items that are indented no further than the key they belong to. -/
def bareItems : Nat → Parse (List Tree)
  | 0 => throw .badStructure
  | budget + 1 => do
    if ← take .blockEntry then
      let item ← optional true false [.blockEntry, .key, .value, .blockEnd] budget
      return item :: (← bareItems budget)
    else return []

def blockMembers : Nat → Parse (List (Key × Tree))
  | 0 => throw .badStructure
  | budget + 1 => do
    if ← take .key then
      let key ← optional true true [.key, .value, .blockEnd] budget
      let value ←
        if ← take .value then optional true true [.key, .value, .blockEnd] budget
        else pure nothing
      return (keyOf key, value) :: (← blockMembers budget)
    else if ← take .blockEnd then return []
    else throw .badStructure

def flowPair : Nat → Parse Tree
  -- A pair in brackets is an object of its own.
  | 0 => throw .badStructure
  | budget + 1 => do
    let key ← optional false false [.value, .flowEntry, .flowSequenceEnd] budget
    let value ←
      if ← take .value then optional false false [.flowEntry, .flowSequenceEnd] budget
      else pure nothing
    return .obj [(keyOf key, value)] none

def flowItems (first : Bool) : Nat → Parse (List Tree)
  | 0 => throw .badStructure
  | budget + 1 => do
    if ← take .flowSequenceEnd then return []
    if !first then
      if !(← take .flowEntry) then throw .badStructure
      if ← take .flowSequenceEnd then return []
    let item ← if ← take .key then flowPair budget else node false false budget
    return item :: (← flowItems false budget)

def flowMembers (first : Bool) : Nat → Parse (List (Key × Tree))
  | 0 => throw .badStructure
  | budget + 1 => do
    if ← take .flowMappingEnd then return []
    if !first then
      if !(← take .flowEntry) then throw .badStructure
      if ← take .flowMappingEnd then return []
    if ← take .key then
      let key ← optional false false [.value, .flowEntry, .flowMappingEnd] budget
      let value ←
        if ← take .value then optional false false [.flowEntry, .flowMappingEnd] budget
        else pure nothing
      return (keyOf key, value) :: (← flowMembers false budget)
    else
      let key ← node false false budget
      return (keyOf key, nothing) :: (← flowMembers false budget)

end

def dropAll (token : Token) : Nat → Parse Unit
  | 0 => return ()
  | budget + 1 => do
    if ← take token then dropAll token budget

def document (budget : Nat) : Parse Tree := do
  dropAll .documentEnd budget
  let directives := (← next?) == some .directive
  dropAll .directive budget
  let started ← take .documentStart
  if directives && !started then throw .badStructure
  let tree ←
    if started then
      optional true false [.directive, .documentStart, .documentEnd] budget
    else optional true false [] budget
  dropAll .documentEnd budget
  match ← next? with
  | none => return tree
  | some .documentStart => throw .manyDocuments
  | some _ => throw .badStructure

end Parse

def readTree (text : String) : Except Fault Tree := do
  let tokens ← scan text
  let budget := 4 * tokens.length + 8
  let (tree, _) ← (Parse.document budget).run { tokens }
  return tree

inductive ReadError where
  | malformed (fault : Fault)
  | unfit (error : DecodeError)

def ReadError.message : ReadError → String
  | malformed fault => fault.message
  | unfit error => error.message

def parse {α : Type} (decoder : Decoder α) (text : String) : Except ReadError α :=
  match readTree text with
  | .error fault => .error (.malformed fault)
  | .ok tree => (decoder textDepth tree).mapError .unfit

end TenantRelay.Document.Yaml
