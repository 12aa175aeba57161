import TenantRelay.Text.Hex
import TenantRelay.Text.Hidden

/-! How values are shown in diagnostics: texts in quotes with hidden characters
written as escapes, records by name and fields, lists in brackets. -/
namespace TenantRelay.Text

def shownChar (c : Char) : List Char :=
  match c with
  | '\x00' => ['\\', '0']
  | '\t' => ['\\', 't']
  | '\r' => ['\\', 'r']
  | '\n' => ['\\', 'n']
  | '"' => ['\\', '"']
  | '\\' => ['\\', '\\']
  | _ =>
    if isHidden c then ['\\', 'u', '\x7b'] ++ Hex.ofNat c.toNat ++ ['\x7d']
    else [c]

def quoted (s : String) : String :=
  String.ofList ('"' :: s.toList.flatMap shownChar ++ ['"'])

def shownBool (b : Bool) : String := if b then "true" else "false"

def shownOption : Option String → String
  | none => "None"
  | some inner => "Some(" ++ inner ++ ")"

def shownList (items : List String) : String :=
  "[" ++ String.intercalate ", " items ++ "]"

def shownMap (entries : List (String × String)) : String :=
  "\x7b" ++ String.intercalate ", " (entries.map fun e => e.1 ++ ": " ++ e.2) ++ "\x7d"

def shownFields (fields : List (String × String)) : List String :=
  fields.map fun f => f.1 ++ ": " ++ f.2

def shownRecord (name : String) (fields : List (String × String)) : String :=
  name ++ " \x7b " ++ String.intercalate ", " (shownFields fields) ++ " \x7d"

/-- A record some of whose fields are left out, which two dots say. -/
def shownPartly (name : String) (fields : List (String × String)) : String :=
  name ++ " \x7b " ++ String.intercalate ", " (shownFields fields ++ [".."]) ++ " \x7d"

end TenantRelay.Text
