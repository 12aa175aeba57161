import TenantRelay.Http.Exchange
import TenantRelay.Instance.Spec
import TenantRelay.Json.Reader
import TenantRelay.Transport.Exchange

/-!
The control plane that runs instances. One is created by posting its spec, opened to
callers by binding a role to everybody, and destroyed by deleting it by its name.
-/

namespace TenantRelay

open Text

structure ControlPlane where
  baseUrl : String
  token : Option String := none
  extension : String
deriving DecidableEq

namespace ControlPlane

variable (c : ControlPlane)

def create? (baseUrl extension : String) (token : Option String) :
    Except ProvisionError ControlPlane :=
  if blank baseUrl then .error (.config "base_url is required")
  else if blank extension then .error (.config "extension_name is required")
  else .ok { baseUrl, token, extension }

def url (path : String) : String :=
  String.ofList ((c.baseUrl.toList.reverse.dropWhile (· == '/')).reverse) ++ path

def servicePath (tenant : String) : String :=
  "/services/" ++ InstanceSpec.instanceName c.extension tenant

def authorization : List (String × String) :=
  match c.token with
  | some token => [("authorization", "Bearer " ++ token)]
  | none => []

/-- A token that cannot stand in a header spoils the request. -/
def hasUsableToken : Bool :=
  match c.token with
  | some token => Http.isHeaderValue (Utf8.encode token)
  | none => true

def jsonRequest (path : String) (body : Json) : Outgoing :=
  { url := c.url path
    headers := c.authorization ++ [("content-type", "application/json")]
    body := Utf8.encode body.compact }

def createRequest (spec : InstanceSpec) : Outgoing := c.jsonRequest "/services" spec.toJson

def everybody : Json := .obj [("role", .str "invoker"), ("members", .ofStrings ["allUsers"])]

def reachRequest (tenant : String) : Outgoing :=
  c.jsonRequest (c.servicePath tenant ++ "/invokers") everybody

def destroyRequest (tenant : String) : Outgoing :=
  { method := "DELETE", url := c.url (c.servicePath tenant), headers := c.authorization }

/-! Answers. -/

/-- Any answer but a success is a failure, of which the text is told if it could be
read. -/
def checked (name : String) : Except TransportFailure Arrival → Except ProvisionError Arrival
  | .error failure => .error (.transport failure)
  | .ok arrival =>
    if isSuccess arrival.status then .ok arrival
    else if arrival.status = 404 then .error (.notFound name)
    else .error (.api arrival.status
      (match arrival.body with
        | .ok body => Utf8.decodeLossy body
        | .error _ => ""))

def addressDecoder : Document.Decoder String :=
  Document.record "CreatedInstance"
    [.of "address" Document.Decoder.text fun v (_ : String) => v] ""

def readAddress (url name : String) (arrival : Arrival) : Except ProvisionError String := do
  let body ← arrival.body.mapError fun failure => .invalidResponse failure.message
  match Json.parse addressDecoder body with
  | .error _ =>
    throw (.invalidResponse
      ({ stage := .receiving, url := some url } : TransportFailure).message)
  | .ok "" => throw (.invalidResponse ("no address returned for " ++ name))
  | .ok address => return address

def targetText (request : Outgoing) : String :=
  match request.target with
  | .ok url => url.render
  | .error _ => request.url

variable {m : Type → Type} [Monad m]

def send (network : Network m) (request : Outgoing) : m (Except TransportFailure Arrival) :=
  match request.target with
  | .error failure => pure (.error failure)
  | .ok _ =>
    if c.hasUsableToken then network request
    else pure (.error
      { stage := .building, url := none, causes := ["failed to parse header value"] })

def create (network : Network m) (tenant : String) (definition : Definition) (secret : String) :
    m (Except ProvisionError String) := do
  let spec := InstanceSpec.build c.extension tenant definition secret
  let request := c.createRequest spec
  let result := checked spec.name (← c.send network request)
  return result.bind (readAddress (targetText request) spec.name)

def reach (network : Network m) (tenant : String) : m (Except ProvisionError Unit) := do
  let result := checked (InstanceSpec.instanceName c.extension tenant)
    (← c.send network (c.reachRequest tenant))
  return result.map fun _ => ()

def destroy (network : Network m) (tenant : String) : m (Except ProvisionError Unit) := do
  let result := checked (InstanceSpec.instanceName c.extension tenant)
    (← c.send network (c.destroyRequest tenant))
  return result.map fun _ => ()

def shown : String :=
  shownRecord "HttpProvisioner"
    [("base_url", quoted c.baseUrl), ("extension_name", quoted c.extension),
     ("token", shownOption (c.token.map fun _ => quoted "<redacted>"))]

end ControlPlane
end TenantRelay
