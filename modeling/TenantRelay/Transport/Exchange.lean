import TenantRelay.Transport.Failure
import TenantRelay.Url.Address

/-! Requests that leave the relay, and what may come back. -/

namespace TenantRelay

structure Outgoing where
  method : String := "POST"
  url : String
  headers : List (String × String) := []
  body : Bytes := []
deriving DecidableEq

/-- The status comes before the body, and the body may be cut off. -/
structure Arrival where
  status : Nat
  body : Except TransportFailure Bytes

abbrev Network (m : Type → Type) := Outgoing → m (Except TransportFailure Arrival)

namespace Outgoing

def badScheme (url : Url) : TransportFailure :=
  { stage := .building, url := some url.render, causes := ["URL scheme is not allowed"] }

def target (request : Outgoing) : Except TransportFailure Url :=
  match Url.parse request.url with
  | .error fault => .error { stage := .building, url := none, causes := [fault.message] }
  | .ok url =>
    if !url.hasHost then .error (badScheme url)
    else
      let url := url.withoutLogin
      if url.scheme = "http".toList ∨ url.scheme = "https".toList then .ok url
      else .error (badScheme url)

def unreachable (request : Outgoing) : TransportFailure :=
  match request.target with
  | .error failure => failure
  | .ok url =>
    { stage := .sending, url := some url.render
      causes := ["client error (Connect)", "tcp connect error",
        "Network is unreachable (os error 101)"] }

end Outgoing

def isSuccess (status : Nat) : Bool := 200 ≤ status && status < 300

end TenantRelay
