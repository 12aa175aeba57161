import TenantRelay.Instance.Definition
import TenantRelay.Transport.Client

/-! What an operator settles before a server starts. Whatever is left out has a value
of its own, if only an empty one that does not pass the check. -/

namespace TenantRelay

open Document

inductive Backend where
  | memory
  | file
  | postgres
deriving DecidableEq

namespace Backend

def names : List (String × Backend) :=
  [("memory", memory), ("file", file), ("postgres", postgres)]

def name : Backend → String
  | memory => "memory"
  | file => "file"
  | postgres => "postgres"

def decoder : Decoder Backend := choice names

end Backend

structure ExtensionConfig where
  name : String := ""
  secret : String := ""

/-- The instance that is asked what the extension offers. -/
structure ReferenceConfig where
  url : String := ""
  secret : String := ""

structure DirectoryConfig where
  backend : Backend := .memory
  path : String := "~/.extmux/directory.json"
  databaseUrl : Option String := none
  cacheTtlSeconds : Nat := 10

structure ControlPlaneConfig where
  baseUrl : String := ""
  token : Option String := none
  definition : Option Definition := none

structure ForwardingConfig where
  timeoutSeconds : Nat := 600
  connectTimeoutSeconds : Nat := 10

structure LoggingConfig where
  level : String := "info"
  json : Bool := false

structure ServerConfig where
  host : String := "0.0.0.0"
  tcpPort : Nat := 8080
  extension : ExtensionConfig := {}
  reference : ReferenceConfig := {}
  directory : DirectoryConfig := {}
  controlPlane : ControlPlaneConfig := {}
  forwarding : ForwardingConfig := {}
  logging : LoggingConfig := {}

def seconds : Decoder Nat := Decoder.whole "u64" 0x10000000000000000

namespace ExtensionConfig

def decoder : Decoder ExtensionConfig :=
  record "ExtensionConfig"
    [.of "name" Decoder.text fun v c => { c with name := v },
     .of "secret" Decoder.text fun v c => { c with secret := v }] {}

def toJson (c : ExtensionConfig) : Json := .obj [("name", .str c.name), ("secret", .str c.secret)]

end ExtensionConfig

namespace ReferenceConfig

def decoder : Decoder ReferenceConfig :=
  record "ReferenceConfig"
    [.of "url" Decoder.text fun v c => { c with url := v },
     .of "secret" Decoder.text fun v c => { c with secret := v }] {}

def toJson (c : ReferenceConfig) : Json := .obj [("url", .str c.url), ("secret", .str c.secret)]

end ReferenceConfig

namespace DirectoryConfig

def decoder : Decoder DirectoryConfig :=
  record "DirectoryConfig"
    [.of "backend" Backend.decoder fun v c => { c with backend := v },
     .of "path" Decoder.text fun v c => { c with path := v },
     .of "database_url" (Decoder.option Decoder.text) fun v c => { c with databaseUrl := v },
     .of "cache_ttl_secs" seconds fun v c => { c with cacheTtlSeconds := v }] {}

def toJson (c : DirectoryConfig) : Json :=
  .obj ([("backend", .str c.backend.name), ("path", .str c.path)] ++
    Json.member? "database_url" (c.databaseUrl.map .str) ++
    [("cache_ttl_secs", .ofNat c.cacheTtlSeconds)])

end DirectoryConfig

namespace ControlPlaneConfig

def decoder : Decoder ControlPlaneConfig :=
  record "ProvisionerConfig"
    [.of "base_url" Decoder.text fun v c => { c with baseUrl := v },
     .of "token" (Decoder.option Decoder.text) fun v c => { c with token := v },
     .of "service_definition" (Decoder.option Definition.decoder)
       fun v c => { c with definition := v }] {}

def toJson (c : ControlPlaneConfig) : Json :=
  .obj ([("base_url", .str c.baseUrl)] ++ Json.member? "token" (c.token.map .str) ++
    Json.member? "service_definition" (c.definition.map Definition.toJson))

end ControlPlaneConfig

namespace ForwardingConfig

def decoder : Decoder ForwardingConfig :=
  record "ForwardingConfig"
    [.of "timeout_secs" seconds fun v c => { c with timeoutSeconds := v },
     .of "connect_timeout_secs" seconds fun v c => { c with connectTimeoutSeconds := v }] {}

def toJson (c : ForwardingConfig) : Json :=
  .obj [("timeout_secs", .ofNat c.timeoutSeconds),
    ("connect_timeout_secs", .ofNat c.connectTimeoutSeconds)]

def client (c : ForwardingConfig) : ClientSettings :=
  { timeoutSeconds := c.timeoutSeconds, connectTimeoutSeconds := c.connectTimeoutSeconds }

end ForwardingConfig

namespace LoggingConfig

def decoder : Decoder LoggingConfig :=
  record "LoggingConfig"
    [.of "level" Decoder.text fun v c => { c with level := v },
     .of "json" Decoder.bool fun v c => { c with json := v }] {}

def toJson (c : LoggingConfig) : Json := .obj [("level", .str c.level), ("json", .bool c.json)]

end LoggingConfig

namespace ServerConfig

def fields : List (RecordField ServerConfig) :=
  [.of "host" Decoder.text fun v c => { c with host := v },
   .of "port" (Decoder.whole "u16" 0x10000) fun v c => { c with tcpPort := v },
   .of "extension" ExtensionConfig.decoder fun v c => { c with extension := v },
   .of "reference" ReferenceConfig.decoder fun v c => { c with reference := v },
   .of "directory" DirectoryConfig.decoder fun v c => { c with directory := v },
   .of "provisioner" ControlPlaneConfig.decoder fun v c => { c with controlPlane := v },
   .of "forwarding" ForwardingConfig.decoder fun v c => { c with forwarding := v },
   .of "logging" LoggingConfig.decoder fun v c => { c with logging := v }]

def decoder : Decoder ServerConfig := record "ServerConfig" fields {}

def toJson (c : ServerConfig) : Json :=
  .obj [("host", .str c.host), ("port", .ofNat c.tcpPort), ("extension", c.extension.toJson),
    ("reference", c.reference.toJson), ("directory", c.directory.toJson),
    ("provisioner", c.controlPlane.toJson), ("forwarding", c.forwarding.toJson),
    ("logging", c.logging.toJson)]

end ServerConfig
end TenantRelay
