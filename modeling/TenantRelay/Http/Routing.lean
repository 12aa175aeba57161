import TenantRelay.Http.Exchange

/-! Which part of a server answers a call. -/

namespace TenantRelay.Http

structure Route (m : Type → Type) where
  path : String
  method : String
  handle : Call → m Answer

def Call.place (call : Call) : String := String.ofList (call.path.toList.takeWhile (· != '?'))

/-- A route that gives also tells what it would give. -/
def Route.allowed {m : Type → Type} (route : Route m) : String :=
  if route.method = "GET" then "GET,HEAD" else route.method

def serve {m : Type → Type} [Monad m] (routes : List (Route m)) (call : Call) : m Answer :=
  match routes.find? (·.path == call.place) with
  | none => return .empty 404
  | some route =>
    if call.method = route.method then route.handle call
    else if call.method = "HEAD" ∧ route.method = "GET" then do
      let answer ← route.handle call
      return { answer with body := [] }
    else return { status := 405, headers := [("allow", route.allowed)] }

def requestIdHeader : String := "x-request-id"

/-- An id that came with the call is kept; without one a new id is given. -/
def requestId (fresh : String) (call : Call) : String :=
  match (call.headers.get? requestIdHeader).bind headerText? with
  | some id => if id = "" then fresh else id
  | none => fresh

def withRequestId {m : Type → Type} [Monad m] (fresh : String) (inner : Call → m Answer)
    (call : Call) : m Answer := do
  let answer ← inner call
  return { answer with headers := answer.headers ++ [(requestIdHeader, requestId fresh call)] }

end TenantRelay.Http
