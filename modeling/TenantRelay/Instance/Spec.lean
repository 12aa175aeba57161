import TenantRelay.Instance.Definition

/-! What one tenant's instance is to be: the template with the tenant's name, secret and
labels put in, whatever the template says about them. -/

namespace TenantRelay

open Document Text

structure EnvVar where
  name : String := ""
  value : String := ""
deriving DecidableEq

structure InstanceSpec where
  name : String := ""
  image : String := ""
  env : List EnvVar := []
  cpu : String := ""
  memory : String := ""
  minInstances : Nat := 0
  maxInstances : Nat := 0
  timeout : Nat := 0
  serviceAccount : String := ""
  labels : KeyMap String := ∅

def secretVariable : String := "LC_SHARED_SECRET"

def tenantVariable : String := "FROM_LC_OID"

def tenantLabel : String := "lc-oid"

def extensionLabel : String := "lc-extension"

namespace EnvVar

def fields : List (RecordField EnvVar) :=
  [.must "name" Decoder.text fun v e => { e with name := v },
   .must "value" Decoder.text fun v e => { e with value := v }]

def decoder : Decoder EnvVar := record "EnvVar" fields {}

def toJson (e : EnvVar) : Json := .obj [("name", .str e.name), ("value", .str e.value)]

def shown (e : EnvVar) : String :=
  e.name ++ "=" ++ if e.name = secretVariable then "<redacted>" else e.value

end EnvVar

namespace InstanceSpec

def fields : List (RecordField InstanceSpec) :=
  [.must "name" Decoder.text fun v s => { s with name := v },
   .must "image" Decoder.text fun v s => { s with image := v },
   .must "env" (Decoder.list EnvVar.decoder) fun v s => { s with env := v },
   .must "cpu" Decoder.text fun v s => { s with cpu := v },
   .must "memory" Decoder.text fun v s => { s with memory := v },
   .must "min_instances" Definition.count fun v s => { s with minInstances := v },
   .must "max_instances" Definition.count fun v s => { s with maxInstances := v },
   .must "timeout_secs" Definition.count fun v s => { s with timeout := v },
   .must "service_account" Decoder.text fun v s => { s with serviceAccount := v },
   .must "labels" (Decoder.map Decoder.text) fun v s => { s with labels := v }]

def decoder : Decoder InstanceSpec := record "InstanceSpec" fields {}

def toJson (s : InstanceSpec) : Json :=
  .obj [("name", .str s.name), ("image", .str s.image), ("env", .arr (s.env.map EnvVar.toJson)),
    ("cpu", .str s.cpu), ("memory", .str s.memory), ("min_instances", .ofNat s.minInstances),
    ("max_instances", .ofNat s.maxInstances), ("timeout_secs", .ofNat s.timeout),
    ("service_account", .str s.serviceAccount), ("labels", .ofDict (s.labels.map .str))]

def instanceName (extension tenant : String) : String := extension ++ "-" ++ tenant

/-- Splits at the first equals sign. An entry without one is malformed. -/
def splitEntry (entry : String) : Option (String × String) :=
  match entry.toList.dropWhile (· != '=') with
  | [] => none
  | _ :: value => some (String.ofList (entry.toList.takeWhile (· != '=')), String.ofList value)

def resolveEntry (secret entry : String) : Option EnvVar :=
  match splitEntry entry with
  | none => none
  | some (name, value) =>
    if name = tenantVariable then none
    else some ⟨name, if name = secretVariable then secret else value⟩

def resolveEnv (env : List String) (tenant secret : String) : List EnvVar :=
  let kept := env.filterMap (resolveEntry secret)
  kept ++ (if kept.any (·.name == secretVariable) then [] else [⟨secretVariable, secret⟩]) ++
    [⟨tenantVariable, tenant⟩]

def build (extension tenant : String) (d : Definition) (secret : String) : InstanceSpec :=
  { name := instanceName extension tenant
    image := d.image
    env := resolveEnv d.env tenant secret
    cpu := d.cpu
    memory := d.memory
    minInstances := d.minInstances
    maxInstances := d.maxInstances
    timeout := d.timeout
    serviceAccount := d.serviceAccount
    labels := (d.labels.insert tenantLabel tenant).insert extensionLabel extension }

def envValue (s : InstanceSpec) (name : String) : Option String :=
  (s.env.find? (·.name == name)).map (·.value)

def shown (s : InstanceSpec) : String :=
  shownRecord "InstanceSpec"
    [("name", quoted s.name), ("image", quoted s.image), ("env", shownList (s.env.map EnvVar.shown)),
     ("cpu", quoted s.cpu), ("memory", quoted s.memory),
     ("min_instances", toString s.minInstances), ("max_instances", toString s.maxInstances),
     ("timeout_secs", toString s.timeout), ("service_account", quoted s.serviceAccount),
     ("labels", shownMap (s.labels.entries.map fun l => (quoted l.1, quoted l.2)))]

end InstanceSpec
end TenantRelay
