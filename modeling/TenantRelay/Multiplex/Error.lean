import TenantRelay.Directory.Error
import TenantRelay.Dispatch.Outcome
import TenantRelay.Forward.Error

/-! What can go wrong when a message is relayed to the instance of its tenant. -/

namespace TenantRelay

inductive MultiplexError where
  | directory (cause : DirectoryError)
  | forward (cause : ForwardError)
  | hook (text : String)
  | rollback (failure cause : String)
  | schema (text : String)
  | serialization (cause : Document.DecodeError)
  /-- A failure that sending the message again cannot mend. -/
  | fatal (text : String)

namespace MultiplexError

def message : MultiplexError → String
  | directory cause => "failed to get service: " ++ cause.message
  | forward cause => "failed to forward: " ++ cause.message
  | hook text => "message hook failed: " ++ text
  | rollback failure cause =>
    "failed to remove instance after failed subscribe: " ++ cause ++ "; original error: " ++ failure
  | schema text => "reference schema unavailable: " ++ text
  | serialization cause => "serialization error: " ++ cause.message
  | fatal text => text

def isRetriable : MultiplexError → Bool
  | directory cause => cause.isRetriable
  | forward cause => cause.isRetriable
  | hook _ => true
  | schema _ => true
  | rollback _ _ => false
  | serialization _ => false
  | fatal _ => false

def toHandlerError (e : MultiplexError) : HandlerError := ⟨e.message, e.isRetriable⟩

def causes : MultiplexError → List String
  | directory cause => cause.message :: cause.causes
  | forward cause => cause.message :: cause.causes
  | serialization cause => [cause.message]
  | hook _ => []
  | rollback _ _ => []
  | schema _ => []
  | fatal _ => []

end MultiplexError
end TenantRelay
