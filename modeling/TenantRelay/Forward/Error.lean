import TenantRelay.Document.Decode
import TenantRelay.Transport.Failure

/-! What can go wrong when a message is sent on to an instance. -/

namespace TenantRelay

inductive ForwardError where
  | transport (failure : TransportFailure)
  | timeout (seconds : Nat)
  | remote (status : Nat) (text : String)
  | unreadable (text : String)
  | serialization (cause : Document.DecodeError)
  | config (text : String)

namespace ForwardError

def message : ForwardError → String
  | transport failure => "HTTP request failed: " ++ failure.message
  | timeout seconds => "Request timeout after " ++ toString seconds ++ "s"
  | remote status text => "Upstream error (" ++ toString status ++ "): " ++ text
  | unreadable text => "Failed to parse response: " ++ text
  | serialization cause => "Serialization error: " ++ cause.message
  | config text => "Invalid configuration: " ++ text

/-- Statuses of a server that is busy or cannot be reached just now. -/
def isPassing (status : Nat) : Bool :=
  status == 429 || status == 502 || status == 503 || status == 504

def isRetriable : ForwardError → Bool
  | transport failure => failure.stage == .sending
  | timeout _ => true
  | remote status _ => isPassing status
  | unreadable _ => false
  | serialization _ => false
  | config _ => false

def causes : ForwardError → List String
  | transport failure => failure.chain
  | serialization cause => [cause.message]
  | timeout _ => []
  | remote _ _ => []
  | unreadable _ => []
  | config _ => []

end ForwardError
end TenantRelay
