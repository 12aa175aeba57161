import TenantRelay.Json.Printer

/-! Calls and answers as the relay sees them. -/

namespace TenantRelay.Http

/-- Names are in small letters, and a name may come more than once. -/
abbrev Headers := List (String × Bytes)

def Headers.get? (headers : Headers) (name : String) : Option Bytes :=
  (headers.find? (·.1 == name)).map (·.2)

def isVisible (b : UInt8) : Bool := (0x20 ≤ b && b < 0x7f) || b == 0x09

def isHeaderValue (value : Bytes) : Bool :=
  value.all fun b => (0x20 ≤ b && b != 0x7f) || b == 0x09

def headerText? (value : Bytes) : Option String :=
  if value.all isVisible then Text.Utf8.decode? value else none

structure Call where
  method : String
  path : String
  headers : Headers
  body : Bytes
  /-- What goes wrong when the body is read past the bytes that are there. -/
  bodyFault : Option String := none

structure Answer where
  status : Nat
  headers : List (String × String) := []
  body : Bytes := []
deriving DecidableEq

def Answer.empty (status : Nat) : Answer := { status }

def Answer.json (status : Nat) (value : Json) : Answer :=
  { status, headers := [("content-type", "application/json")]
    body := Text.Utf8.encode value.compact }

end TenantRelay.Http
