import TenantRelay.Json.Value
import TenantRelay.Number.Shortest
import TenantRelay.Text.Hex

/-! Values as text: on one line without spaces, or spread over lines with two spaces
for each level. -/

namespace TenantRelay.Json

/-- Numbers keep a zero after the point, and have an exponent below `1e-5` and from
`1e16` on. -/
def layout : Number.Layout := ⟨fun point => -5 < point && point ≤ 16, true, "+"⟩

def Number.text : Json.Number → String
  | .nat n => toString n.toNat
  | .neg n => toString n.toInt
  | .real x => layout.render x

def escapeChar (c : Char) : List Char :=
  match c with
  | '"' => ['\\', '"']
  | '\\' => ['\\', '\\']
  | '\x08' => ['\\', 'b']
  | '\x0c' => ['\\', 'f']
  | '\n' => ['\\', 'n']
  | '\r' => ['\\', 'r']
  | '\t' => ['\\', 't']
  | _ =>
    if c.toNat < 0x20 then ['\\', 'u', '0', '0'] ++ Text.Hex.encodeByte (UInt8.ofNat c.toNat)
    else [c]

def escape (s : String) : String :=
  String.ofList ('"' :: s.toList.flatMap escapeChar ++ ['"'])

mutual

def compact : Json → String
  | null => "null"
  | bool true => "true"
  | bool false => "false"
  | num n => n.text
  | str s => escape s
  | arr items => "[" ++ compactItems items ++ "]"
  | obj members => "\x7b" ++ compactMembers members ++ "\x7d"

def compactItems : List Json → String
  | [] => ""
  | [item] => compact item
  | item :: rest => compact item ++ "," ++ compactItems rest

def compactMembers : List (String × Json) → String
  | [] => ""
  | [(key, value)] => escape key ++ ":" ++ compact value
  | (key, value) :: rest => escape key ++ ":" ++ compact value ++ "," ++ compactMembers rest

end

def newline (level : Nat) : String := "\n" ++ String.ofList (List.replicate (2 * level) ' ')

mutual

def prettyAt (level : Nat) : Json → String
  | arr [] => "[]"
  | arr (item :: rest) =>
    "[" ++ newline (level + 1) ++ prettyAt (level + 1) item ++ prettyItems (level + 1) rest ++
      newline level ++ "]"
  | obj [] => "\x7b\x7d"
  | obj ((key, value) :: rest) =>
    "\x7b" ++ newline (level + 1) ++ escape key ++ ": " ++ prettyAt (level + 1) value ++
      prettyMembers (level + 1) rest ++ newline level ++ "\x7d"
  | null => "null"
  | bool true => "true"
  | bool false => "false"
  | num n => n.text
  | str s => escape s

def prettyItems (level : Nat) : List Json → String
  | [] => ""
  | item :: rest => "," ++ newline level ++ prettyAt level item ++ prettyItems level rest

def prettyMembers (level : Nat) : List (String × Json) → String
  | [] => ""
  | (key, value) :: rest =>
    "," ++ newline level ++ escape key ++ ": " ++ prettyAt level value ++ prettyMembers level rest

end

def pretty (value : Json) : String := prettyAt 0 value

end TenantRelay.Json
