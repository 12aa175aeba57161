import TenantRelay.Document.Tree
import TenantRelay.Json.Printer
import TenantRelay.Text.Shown

/-!
Typed reading of documents. A decoder goes through a tree from left to right and
stops at the first thing that is wrong, be it the text or what it says.
-/

namespace TenantRelay

variable {ε ε' α : Type}

theorem mapError_ok (f : ε → ε') (a : α) : (Except.ok a).mapError f = .ok a := rfl

theorem mapError_error (f : ε → ε') (e : ε) :
    (Except.error e : Except ε α).mapError f = .error (f e) := rfl

theorem mapError_eq_ok {x : Except ε α} {f : ε → ε'} {a : α} :
    x.mapError f = .ok a ↔ x = .ok a := by
  cases x with
  | ok v => rw [mapError_ok, Except.ok.injEq, Except.ok.injEq]
  | error e => exact iff_of_false (fun h => by cases h) (fun h => by cases h)

end TenantRelay

namespace TenantRelay.Document

inductive Found where
  | bool (value : Bool)
  | integer (value : Int)
  | floating (value : Float)
  | text (value : String)
  | unit
  | sequence
  | map

def Found.shown : Found → String
  | bool b => "boolean `" ++ Text.shownBool b ++ "`"
  | integer n => "integer `" ++ toString n ++ "`"
  | floating x => "floating point `" ++ Json.layout.render x ++ "`"
  | text s => "string " ++ Text.quoted s
  | unit => "null"
  | sequence => "sequence"
  | map => "map"

inductive DecodeError where
  | malformed (fault : SyntaxFault)
  | wrongType (found : Found) (expected : String)
  | wrongValue (found : Found) (expected : String)
  | missing (field : String)
  | repeated (field : String)
  | wrongLength (length : Nat) (expected : String)
  | unknownVariant (found : String) (expected : List String)
  | other (text : String)

def alternatives : List String → String
  | [] => "there are no variants"
  | [a] => "expected `" ++ a ++ "`"
  | [a, b] => "expected `" ++ a ++ "` or `" ++ b ++ "`"
  | many => "expected one of " ++ String.intercalate ", " (many.map fun v => "`" ++ v ++ "`")

def DecodeError.message : DecodeError → String
  | malformed fault => fault.message
  | wrongType found expected => "invalid type: " ++ found.shown ++ ", expected " ++ expected
  | wrongValue found expected => "invalid value: " ++ found.shown ++ ", expected " ++ expected
  | missing field => "missing field `" ++ field ++ "`"
  | repeated field => "duplicate field `" ++ field ++ "`"
  | wrongLength length expected =>
    "invalid length " ++ toString length ++ ", expected " ++ expected
  | unknownVariant found expected =>
    "unknown variant `" ++ found ++ "`, " ++ alternatives expected
  | other text => text

/-- How many more levels of lists and objects may be entered. A value that is in
memory already has no limit. -/
abbrev Depth := Option Nat

def textDepth : Depth := some 128

def enter : Depth → Except DecodeError Depth
  | none => .ok none
  | some n => if n ≤ 1 then .error (.malformed .tooDeep) else .ok (some (n - 1))

abbrev Decoder (α : Type) := Depth → Tree → Except DecodeError α

def Number.found : Json.Number → Found
  | .nat n => .integer n.toNat
  | .neg n => .integer n.toInt
  | .real x => .floating x

/-- The error of meeting this tree where something else was wanted. A token is read
to its end before it is refused. -/
def mismatch (tree : Tree) (expected : String) : DecodeError :=
  match tree with
  | .null => .wrongType .unit expected
  | .bool b => .wrongType (.bool b) expected
  | .num n => .wrongType (Number.found n) expected
  | .str s => .wrongType (.text s) expected
  | .plain s => .wrongType (.text s) expected
  | .arr _ _ => .wrongType .sequence expected
  | .obj _ _ => .wrongType .map expected
  | .flawed fault => .malformed fault
  | .broken fault => .malformed fault.reading

def skip (tree : Tree) : Except DecodeError Unit :=
  match tree.skipFault with
  | some fault => .error (.malformed fault)
  | none => .ok ()

def close (tail : Option Fault) : Except DecodeError Unit :=
  match tail with
  | some fault => .error (.malformed fault.reading)
  | none => .ok ()

def Key.read (key : Key) : Except DecodeError String := key.mapError .malformed

namespace Decoder

def text : Decoder String
  | _, .str s => .ok s
  | _, .plain s => .ok s
  | _, tree => .error (mismatch tree "a string")

def truthOf? (s : String) : Option Bool :=
  if ["true", "True", "TRUE"].contains s then some true
  else if ["false", "False", "FALSE"].contains s then some false
  else none

def bool : Decoder Bool
  | _, .bool b => .ok b
  | _, .plain s => match truthOf? s with
    | some b => .ok b
    | none => .error (mismatch (.plain s) "a boolean")
  | _, tree => .error (mismatch tree "a boolean")

def digitsIn? (base : Nat) (s : List Char) : Option Nat :=
  if s.isEmpty then none
  else s.foldl (fun total c => do
    let total ← total
    let d ← Text.Hex.value c
    if d < base then some (total * base + d) else none) (some 0)

/-- A whole number in a scalar without quotes: an optional plus sign, then decimal
digits without a needless zero in front, or digits of another base after its mark. -/
def wholeOf? (s : String) : Option Nat :=
  let unsigned := match s.toList with
    | '+' :: rest => rest
    | cs => cs
  match unsigned with
  | '0' :: 'x' :: rest => digitsIn? 16 rest
  | '0' :: 'o' :: rest => digitsIn? 8 rest
  | '0' :: 'b' :: rest => digitsIn? 2 rest
  | '0' :: _ :: _ => none
  | cs => digitsIn? 10 cs

def whole (name : String) (limit : Nat) : Decoder Nat
  | _, .num (.nat n) =>
    if n.toNat < limit then .ok n.toNat else .error (.wrongValue (.integer n.toNat) name)
  | _, .num (.neg n) => .error (.wrongValue (.integer n.toInt) name)
  | _, .plain s => match wholeOf? s with
    | some n => if n < limit then .ok n else .error (.wrongValue (.integer n) name)
    | none => .error (mismatch (.plain s) name)
  | _, tree => .error (mismatch tree name)

def u64 : Decoder UInt64 := fun depth tree => (whole "u64" 0x10000000000000000 depth tree).map UInt64.ofNat

def absentWords : List String := ["", "null", "Null", "NULL", "~"]

def option {α : Type} (inner : Decoder α) : Decoder (Option α)
  | _, .null => .ok none
  | depth, .plain s => if absentWords.contains s then .ok none else (inner depth (.plain s)).map some
  | depth, tree => (inner depth tree).map some

def items {α : Type} (inner : Decoder α) (depth : Depth) :
    List Tree → Except DecodeError (List α)
  | [] => .ok []
  | tree :: rest => do
    let first ← inner depth tree
    let others ← items inner depth rest
    return first :: others

def list {α : Type} (inner : Decoder α) : Decoder (List α)
  | depth, .arr trees tail => do
    let below ← enter depth
    let all ← items inner below trees
    close tail
    return all
  | _, .plain "" => .ok []
  | _, tree => .error (mismatch tree "a sequence")

def members {α : Type} (inner : Decoder α) (depth : Depth) :
    List (Key × Tree) → KeyMap α → Except DecodeError (KeyMap α)
  | [], sofar => .ok sofar
  | (key, tree) :: rest, sofar => do
    let key ← Key.read key
    let value ← inner depth tree
    members inner depth rest (sofar.insert key value)

def map {α : Type} (inner : Decoder α) : Decoder (KeyMap α)
  | depth, .obj pairs tail => do
    let below ← enter depth
    let all ← members inner below pairs KeyMap.empty
    close tail
    return all
  | _, .plain "" => .ok KeyMap.empty
  | _, tree => .error (mismatch tree "a map")

mutual

def json (depth : Depth) : Tree → Except DecodeError Json
  | .null => .ok .null
  | .bool b => .ok (.bool b)
  | .num n => .ok (.num n)
  | .str s => .ok (.str s)
  | .plain s => .ok (.str s)
  | .flawed fault => .error (.malformed fault)
  | .broken fault => .error (.malformed fault.reading)
  | .arr trees tail => do
    let below ← enter depth
    let all ← jsonItems below trees
    close tail
    return .arr all
  | .obj pairs tail => do
    let below ← enter depth
    let all ← jsonMembers below pairs
    close tail
    return .ofPairs all

def jsonItems (depth : Depth) : List Tree → Except DecodeError (List Json)
  | [] => .ok []
  | tree :: rest => do
    let first ← json depth tree
    let others ← jsonItems depth rest
    return first :: others

def jsonMembers (depth : Depth) : List (Key × Tree) → Except DecodeError (List (String × Json))
  | [] => .ok []
  | (key, tree) :: rest => do
    let key ← Key.read key
    let value ← json depth tree
    let others ← jsonMembers depth rest
    return (key, value) :: others

end

def dict : Decoder Dict := map json

end Decoder

/-- One field of a record: how a tree that stands for it changes the record read so
far. -/
structure RecordField (σ : Type) where
  name : String
  store : Depth → Tree → σ → Except DecodeError σ
  required : Bool

def RecordField.of {σ α : Type} (name : String) (inner : Decoder α) (set : α → σ → σ) :
    RecordField σ :=
  ⟨name, fun depth tree record => (inner depth tree).map fun value => set value record, false⟩

def RecordField.must {σ α : Type} (name : String) (inner : Decoder α) (set : α → σ → σ) :
    RecordField σ :=
  { RecordField.of name inner set with required := true }

namespace Record

variable {σ : Type}

/-- Reads the members of an object. A field that was seen is refused as soon as its
name comes again, and members with other names are passed over. -/
def members (fields : List (RecordField σ)) (depth : Depth) :
    List (Key × Tree) → List String → σ → Except DecodeError (List String × σ)
  | [], seen, record => .ok (seen, record)
  | (key, tree) :: rest, seen, record => do
    let key ← Key.read key
    match fields.find? fun field => field.name == key with
    | none =>
      skip tree
      members fields depth rest seen record
    | some field =>
      if seen.contains key then throw (.repeated key)
      let record ← field.store depth tree record
      members fields depth rest (key :: seen) record

def missing (fields : List (RecordField σ)) (seen : List String) : Except DecodeError Unit :=
  match fields.find? fun field => field.required && !seen.contains field.name with
  | some field => .error (.missing field.name)
  | none => .ok ()

def plural (n : Nat) : String := if n == 1 then " element" else " elements"

def positional (what : String) (total : Nat) (depth : Depth) (place : Nat) :
    List (RecordField σ) → List Tree → Option Fault → σ → Except DecodeError (List Tree × σ)
  -- Trailing fields that are not required may be left out.
  | [], trees, _, record => .ok (trees, record)
  | field :: fields, [], tail, record => do
    close tail
    if field.required then
      throw (.wrongLength place (what ++ " with " ++ toString total ++ plural total))
    positional what total depth (place + 1) fields [] tail record
  | field :: fields, tree :: trees, tail, record => do
    let record ← field.store depth tree record
    positional what total depth (place + 1) fields trees tail record

def ending (depth : Depth) (count : Nat) (left : List Tree) (tail : Option Fault) :
    Except DecodeError Unit :=
  match left, tail with
  | [], none => .ok ()
  | [], some fault => .error (.malformed fault.ending)
  | _ :: _, _ => match depth with
    | some _ => .error (.malformed .trailingCharacters)
    | none => .error (.wrongLength count "fewer elements in array")

end Record

def record {σ : Type} (what : String) (fields : List (RecordField σ)) (blank : σ) : Decoder σ
  | depth, .obj pairs tail => do
    let below ← enter depth
    let (seen, value) ← Record.members fields below pairs [] blank
    close tail
    Record.missing fields seen
    return value
  | depth, .arr trees tail => do
    let below ← enter depth
    let (left, value) ←
      Record.positional ("struct " ++ what) fields.length below 0 fields trees tail blank
    Record.ending below trees.length left tail
    return value
  | _, .plain "" => do
    Record.missing fields []
    return blank
  | _, tree => .error (mismatch tree ("struct " ++ what))

def choice {α : Type} (names : List (String × α)) : Decoder α :=
  fun depth tree =>
    let pick (name : String) : Except DecodeError α :=
      match KeyMap.findEntry name names with
      | some a => .ok a
      | none => .error (.unknownVariant name (names.map (·.1)))
    match tree with
    | .str s => pick s
    | .plain s => pick s
    | .obj [(key, value)] none => do
      let _ ← enter depth
      let a ← pick (← Key.read key)
      match value with
      | .null => return a
      | other => throw (mismatch other "unit")
    | .obj _ _ => .error (.wrongValue .map "map with a single key")
    | other => .error (mismatch other "string or map")

end TenantRelay.Document
