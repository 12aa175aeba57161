import TenantRelay.Transport.Failure

/-! What can go wrong between the relay and the control plane of instances. -/

namespace TenantRelay

inductive ProvisionError where
  | notFound (name : String)
  | invalidDefinition (text : String)
  | transport (failure : TransportFailure)
  | api (status : Nat) (text : String)
  | invalidResponse (text : String)
  | config (text : String)

namespace ProvisionError

def message : ProvisionError → String
  | notFound name => "instance not found: " ++ name
  | invalidDefinition text => "invalid service definition: " ++ text
  | transport failure => "control plane request failed: " ++ failure.message
  | api status text => "control plane returned " ++ toString status ++ ": " ++ text
  | invalidResponse text => "unexpected control plane response: " ++ text
  | config text => "invalid provisioner configuration: " ++ text

/-- Another try may help where the control plane was out of reach, busy or ailing. -/
def isRetriable : ProvisionError → Bool
  | transport _ => true
  | api status _ => status == 429 || 500 ≤ status
  | notFound _ => false
  | invalidDefinition _ => false
  | invalidResponse _ => false
  | config _ => false

def isNotFound : ProvisionError → Bool
  | notFound _ => true
  | _ => false

def causes : ProvisionError → List String
  | transport failure => failure.chain
  | notFound _ => []
  | invalidDefinition _ => []
  | api _ _ => []
  | invalidResponse _ => []
  | config _ => []

end ProvisionError
end TenantRelay
