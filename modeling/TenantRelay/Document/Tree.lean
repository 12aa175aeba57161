import TenantRelay.Json.Value

/-!
A document as far as it can be read. A text that goes wrong somewhere still has a
tree: what comes before the fault is there, and the fault stands where the text
stops making sense. Which fault a reader meets first then depends on what the
reader asks of the parts before it.
-/

namespace TenantRelay.Document

inductive SyntaxFault where
  | endInList
  | endInObject
  | endInString
  | endInValue
  | expectedColon
  | expectedListEnd
  | expectedObjectEnd
  | expectedLiteral
  | expectedValue
  | invalidEscape
  | invalidNumber
  | numberOutOfRange
  | invalidCodePoint
  | controlCharacter
  | keyNotText
  | loneSurrogate
  | unfinishedSurrogate
  | trailingComma
  | trailingCharacters
  | tooDeep
deriving DecidableEq

def SyntaxFault.message : SyntaxFault → String
  | endInList => "EOF while parsing a list"
  | endInObject => "EOF while parsing an object"
  | endInString => "EOF while parsing a string"
  | endInValue => "EOF while parsing a value"
  | expectedColon => "expected `:`"
  | expectedListEnd => "expected `,` or `]`"
  | expectedObjectEnd => "expected `,` or `\x7d`"
  | expectedLiteral => "expected ident"
  | expectedValue => "expected value"
  | invalidEscape => "invalid escape"
  | invalidNumber => "invalid number"
  | numberOutOfRange => "number out of range"
  | invalidCodePoint => "invalid unicode code point"
  | controlCharacter => "control character (\\u0000-\\u001F) found while parsing a string"
  | keyNotText => "key must be a string"
  | loneSurrogate => "lone leading surrogate in hex escape"
  | unfinishedSurrogate => "unexpected end of hex escape"
  | trailingComma => "trailing comma"
  | trailingCharacters => "trailing characters"
  | tooDeep => "recursion limit exceeded"

/-- One fault as it shows to a reader that wants the value, to one that passes over
it, and to one that expects the list to end there. -/
structure Fault where
  reading : SyntaxFault
  skipping : SyntaxFault
  ending : SyntaxFault
deriving DecidableEq

def Fault.same (fault : SyntaxFault) : Fault := ⟨fault, fault, fault⟩

abbrev Key := Except SyntaxFault String

inductive Tree where
  | null
  | bool (value : Bool)
  | num (value : Json.Number)
  | str (value : String)
  /-- A scalar without quotes, whose type is settled by what is asked for. -/
  | plain (text : String)
  /-- A token that can be passed over and has no value. -/
  | flawed (fault : SyntaxFault)
  | arr (items : List Tree) (tail : Option Fault)
  | obj (members : List (Key × Tree)) (tail : Option Fault)
  | broken (fault : Fault)

instance : Inhabited Tree := ⟨.null⟩

namespace Tree

def failed (reading skipping : SyntaxFault) : Tree := broken ⟨reading, skipping, reading⟩

mutual

def ofJson : Json → Tree
  | .null => null
  | .bool b => bool b
  | .num n => num n
  | .str s => str s
  | .arr items => arr (ofItems items) none
  | .obj members => obj (ofMembers members) none

def ofItems : List Json → List Tree
  | [] => []
  | item :: rest => ofJson item :: ofItems rest

def ofMembers : List (String × Json) → List (Key × Tree)
  | [] => []
  | (key, value) :: rest => (.ok key, ofJson value) :: ofMembers rest

end

mutual

def skipFault : Tree → Option SyntaxFault
  | arr items tail => (skipItems items).or (tail.map (·.skipping))
  | obj members tail => (skipMembers members).or (tail.map (·.skipping))
  | broken fault => some fault.skipping
  | null => none
  | bool _ => none
  | num _ => none
  | str _ => none
  | plain _ => none
  | flawed _ => none

def skipItems : List Tree → Option SyntaxFault
  | [] => none
  | item :: rest => (skipFault item).or (skipItems rest)

def skipMembers : List (Key × Tree) → Option SyntaxFault
  | [] => none
  | (_, value) :: rest => (skipFault value).or (skipMembers rest)

end

end Tree
end TenantRelay.Document
