import TenantRelay.Document.Decode
import TenantRelay.Instance.Error
import TenantRelay.Json.Reader
import TenantRelay.Text.Blank

/-! The template that every tenant's instance is made from. -/

namespace TenantRelay

open Document Text

structure Definition where
  image : String := ""
  env : List String := []
  cpu : String := ""
  memory : String := ""
  minInstances : Nat := 0
  maxInstances : Nat := 0
  timeout : Nat := 0
  serviceAccount : String := ""
  labels : KeyMap String := ∅

namespace Definition

def count : Decoder Nat := Decoder.whole "u32" 0x100000000

def fields : List (RecordField Definition) :=
  [.must "image" Decoder.text fun v d => { d with image := v },
   .of "env" (Decoder.list Decoder.text) fun v d => { d with env := v },
   .of "cpu" Decoder.text fun v d => { d with cpu := v },
   .of "memory" Decoder.text fun v d => { d with memory := v },
   .of "min_instances" count fun v d => { d with minInstances := v },
   .of "max_instances" count fun v d => { d with maxInstances := v },
   .of "timeout" count fun v d => { d with timeout := v },
   .of "service_account" Decoder.text fun v d => { d with serviceAccount := v },
   .of "labels" (Decoder.map Decoder.text) fun v d => { d with labels := v }]

def decoder : Decoder Definition := record "ServiceDefinition" fields {}

def toJson (d : Definition) : Json :=
  .obj [("image", .str d.image), ("env", .ofStrings d.env), ("cpu", .str d.cpu),
    ("memory", .str d.memory), ("min_instances", .ofNat d.minInstances),
    ("max_instances", .ofNat d.maxInstances), ("timeout", .ofNat d.timeout),
    ("service_account", .str d.serviceAccount), ("labels", .ofDict (d.labels.map .str))]

/-- A most of none is no bound. -/
def validate (d : Definition) : Except ProvisionError Unit :=
  if blank d.image then .error (.invalidDefinition "image is required")
  else if d.maxInstances ≠ 0 ∧ d.maxInstances < d.minInstances then
    .error (.invalidDefinition ("min_instances (" ++ toString d.minInstances ++
      ") exceeds max_instances (" ++ toString d.maxInstances ++ ")"))
  else .ok ()

def ofText (text : Bytes) : Except ProvisionError Definition := do
  let d ← (Json.parse decoder text).mapError fun e => .invalidDefinition e.message
  d.validate
  return d

end Definition
end TenantRelay
