import TenantRelay.KeyMap

/-! The dynamic values that messages carry: what a tenant, an action or an instance
means by them is not the relay's business. -/

namespace TenantRelay

/-- A whole number is kept exactly as far as 64 bits reach; every other number is a
binary floating-point one. -/
inductive Json.Number where
  | nat (value : UInt64)
  | neg (value : Int64)
  | real (value : Float)

inductive Json where
  | null
  | bool (value : Bool)
  | num (value : Json.Number)
  | str (value : String)
  | arr (items : List Json)
  | obj (members : List (String × Json))

/-- An object whose keys are looked up: sorted, each key once. -/
abbrev Dict := KeyMap Json

namespace Json

instance : Inhabited Json := ⟨null⟩

def ofNat (n : Nat) : Json := num (.nat (UInt64.ofNat n))

def ofDict (dict : Dict) : Json := obj dict.entries

def ofPairs (pairs : List (String × Json)) : Json := ofDict (KeyMap.ofList pairs)

def ofStrings (texts : List String) : Json := arr (texts.map str)

def ofOption (f : α → Json) : Option α → Json
  | none => null
  | some a => f a

def member? (key : String) : Option Json → List (String × Json)
  | none => []
  | some value => [(key, value)]

def get? (key : String) : Json → Option Json
  | obj members => KeyMap.findEntry key members
  | _ => none

mutual

/-- The same value with the members of every object sorted by key. -/
def normalize : Json → Json
  | arr items => arr (normalizeItems items)
  | obj members => ofPairs (normalizeMembers members)
  | null => null
  | bool b => bool b
  | num n => num n
  | str s => str s

def normalizeItems : List Json → List Json
  | [] => []
  | item :: rest => normalize item :: normalizeItems rest

def normalizeMembers : List (String × Json) → List (String × Json)
  | [] => []
  | (key, value) :: rest => (key, normalize value) :: normalizeMembers rest

end

end Json
end TenantRelay
