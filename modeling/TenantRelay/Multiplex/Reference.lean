import TenantRelay.Envelope.Schema
import TenantRelay.Forward.Forwarder
import TenantRelay.Protocol

/-! Asking a reference instance what the extension offers. -/

namespace TenantRelay.Reference

def schemaRequest : Message := .carrying protocolVersion "" .schemaRequest

def readSchema (r : Response) : Except MultiplexError Schema :=
  if r.isError then .error (.schema r.error)
  else match r.data with
    | none => .error (.schema "reference service returned no schema")
    | some data => (Json.convert Schema.decoder data).mapError .serialization

def fetchSchema (f : Forwarder) (address secret : String) :
    Program (Except MultiplexError Schema) := do
  match ← f.send address secret schemaRequest "schema_request" with
  | .error e => return .error (.forward e)
  | .ok r => return readSchema r

end TenantRelay.Reference
