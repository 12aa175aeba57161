import TenantRelay.Json.Printer
import TenantRelay.Text.Shown

/-! Values as diagnostics show them, each with the kind it is of. -/

namespace TenantRelay.Json

open Text

mutual

def shown : Json → String
  | null => "Null"
  | bool b => "Bool(" ++ shownBool b ++ ")"
  | num n => "Number(" ++ n.text ++ ")"
  | str s => "String(" ++ quoted s ++ ")"
  | arr items => "Array " ++ shownList (shownItems items)
  | obj members => "Object " ++ shownMap (shownMembers members)

def shownItems : List Json → List String
  | [] => []
  | item :: rest => shown item :: shownItems rest

def shownMembers : List (String × Json) → List (String × String)
  | [] => []
  | (key, value) :: rest => (quoted key, shown value) :: shownMembers rest

end

def shownDict (dict : Dict) : String := shownMap (shownMembers dict.entries)

end TenantRelay.Json
