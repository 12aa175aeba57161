import TenantRelay.Document.Decode

/-! What can be wrong with an envelope. -/

namespace TenantRelay

inductive EnvelopeError where
  | undecodable (cause : Document.DecodeError)
  | noPayload
  | ambiguousPayload (count : Nat)
  | invalidTenant (text : String)

def EnvelopeError.message : EnvelopeError → String
  | undecodable cause => "Serialization error: " ++ cause.message
  | noPayload => "no data in request"
  | ambiguousPayload count => "no data in request: " ++ toString count ++ " payload kinds set"
  | invalidTenant text => "Invalid tenant: " ++ text

end TenantRelay
