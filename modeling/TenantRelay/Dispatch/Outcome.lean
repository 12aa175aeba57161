import TenantRelay.Envelope.Response

/-! What a handler comes back with. -/

namespace TenantRelay

structure Reply where
  data : Option Json := none
  continuations : List Continuation := []
  metrics : Option UsageReport := none

structure HandlerError where
  text : String
  retriable : Bool := true
deriving DecidableEq

def HandlerError.fatal (text : String) : HandlerError := ⟨text, false⟩

abbrev Outcome := Except HandlerError Reply

def Reply.toResponse (r : Reply) : Response :=
  { data := r.data, continuations := r.continuations, metrics := r.metrics }

def Outcome.ofResponse (r : Response) : Outcome :=
  if r.isError then .error ⟨r.error, r.isRetriable⟩
  else .ok { data := r.data, continuations := r.continuations, metrics := r.metrics }

end TenantRelay
