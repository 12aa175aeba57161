import TenantRelay.Forward.Reading
import TenantRelay.Program
import TenantRelay.Signature

/-! Sending a message on to an instance: written once, signed with the instance's
secret, and posted once. Whoever sent it decides whether to send it again. -/

namespace TenantRelay

open Text

structure Forwarder where
  timeoutSeconds : Nat := 30
deriving DecidableEq

def Parcel.of (address secret : String) (message : Message) : Parcel :=
  let body := message.encode
  { address, signature := Signature.sign (Utf8.encode secret) body, body }

def Parcel.outgoing (p : Parcel) : Outgoing :=
  { url := p.address
    headers := [(Signature.header, p.signature), ("content-type", "application/json")]
    body := p.body }

namespace Forwarder

def transportError (f : Forwarder) (failure : TransportFailure) : ForwardError :=
  if failure.timedOut then .timeout f.timeoutSeconds else .transport failure

def read (f : Forwarder) : Except TransportFailure Delivery → Except ForwardError Response
  | .ok delivery => Forward.readAnswer delivery.status delivery.body
  | .error failure => .error (f.transportError failure)

def outcomeOf : Except ForwardError Response → String
  | .ok r => if !r.isError then "ok" else if r.isRetriable then "retriable_error" else "error"
  | .error _ => "transport_error"

def send (f : Forwarder) (address secret : String) (message : Message) (target : String) :
    Program (Except ForwardError Response) := do
  let result := f.read (← Program.call (.post (.of address secret message)))
  Program.call (.count (.forward target (outcomeOf result)))
  return result

def shown (f : Forwarder) : String :=
  shownPartly "Forwarder" [("timeout_secs", toString f.timeoutSeconds)]

end Forwarder
end TenantRelay
