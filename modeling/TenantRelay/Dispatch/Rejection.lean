import TenantRelay.Dispatch.Outcome
import TenantRelay.Envelope.Error
import TenantRelay.Envelope.Tenant
import TenantRelay.Http.Exchange
import TenantRelay.Masking
import TenantRelay.Protocol

/-! Why a call was refused or came to nothing, and how that is told. -/

namespace TenantRelay

inductive Rejection.Cause where
  | bodyRead (text : String)
  | invalidSignature
  | decompression (text : String)
  | invalidMessage (cause : Document.DecodeError)
  | invalidEnvelope (cause : EnvelopeError)
  | unknownAction (action : String)
  | unknownEvent (name : String)
  | invalidRequestData (cause : Document.DecodeError)
  | tenantClient (text : String)
  | handler (error : HandlerError)

structure Rejection where
  cause : Rejection.Cause
  kind : String := "unknown"
  tenant : Option Tenant := none

namespace Rejection

def Cause.message : Cause → String
  | bodyRead text => "failed reading request body: " ++ text
  | invalidSignature => "invalid signature"
  | decompression text => "failed decompressing request body: " ++ text
  | invalidMessage cause => "failed parsing message: " ++ cause.message
  | invalidEnvelope cause => cause.message
  | unknownAction action => "unknown request action: " ++ action
  | unknownEvent name => "unknown event: " ++ name
  | invalidRequestData cause => "failed to unmarshal request data: " ++ cause.message
  | tenantClient text => "failed initializing tenant client: " ++ text
  | handler error => error.text

/-- The status tells whether another try may help. -/
def Cause.status : Cause → Nat
  | bodyRead _ => 204
  | invalidSignature => 401
  | decompression _ => 400
  | invalidMessage _ => 400
  | invalidEnvelope _ => 400
  | unknownAction _ => 400
  | unknownEvent _ => 400
  | invalidRequestData _ => 400
  | tenantClient _ => 500
  | handler error => if error.retriable then 503 else 500

def Cause.hasBody : Cause → Bool
  | bodyRead _ => false
  | invalidSignature => false
  | _ => true

def Cause.answer (cause : Cause) (message : String) : Http.Answer :=
  if cause.hasBody then
    .json cause.status ({ error := message, version := protocolVersion : Response }).toJson
  else .empty cause.status

def status (r : Rejection) : Nat := r.cause.status

def message (r : Rejection) : String := r.cause.message

def maskedMessage (r : Rejection) : String :=
  match r.tenant with
  | some tenant => Masking.mask [tenant.credential] r.message
  | none => r.message

def answer (r : Rejection) : Http.Answer := r.cause.answer r.maskedMessage

end Rejection
end TenantRelay
