import TenantRelay.Disk.Path
import TenantRelay.Disk.Tree
import TenantRelay.Document.Toml.Read
import TenantRelay.Document.Yaml.Node
import TenantRelay.Server.Config
import TenantRelay.Text.LowerCase

/-!
Where a configuration comes from: a file, and on top of it variables of the
environment. Some variables have an older name too, which only counts where the newer
one is not set.
-/

namespace TenantRelay

inductive ConfigError where
  | unreadable (text : String)
  | yaml (text : String)
  | toml (text : String)
  | invalid (text : String)

def ConfigError.message : ConfigError → String
  | unreadable text => "failed to read config file: " ++ text
  | yaml text => "invalid YAML config: " ++ text
  | toml text => "invalid TOML config: " ++ text
  | invalid text => "invalid configuration: " ++ text

namespace ServerConfig

/-! Files. -/

def ofText (path text : String) : Except ConfigError ServerConfig :=
  if Disk.extension? path = some "toml" then
    (Document.Toml.parse decoder text).mapError fun e => .toml e.message
  else (Document.Yaml.parse decoder text).mapError fun e => .yaml e.message

def ofFile (disk : Disk) (path : String) : Except ConfigError ServerConfig := do
  let content ← (disk.read path).mapError fun fault => .unreadable fault.message
  match Text.Utf8.decode? content with
  | none => throw (.unreadable "stream did not contain valid UTF-8")
  | some text => ofText path text

end ServerConfig

/-! Variables. -/

/-- What one variable changes. -/
structure Setting where
  name : String
  olderName : Option String := none
  read : String → Except ConfigError (ServerConfig → ServerConfig)

abbrev Environment := String → Option String

namespace Setting

def value? (s : Setting) (env : Environment) : Option String :=
  match env s.name with
  | some value => some value
  | none => s.olderName.bind env

def text (name : String) (set : String → ServerConfig → ServerConfig)
    (olderName : Option String := none) : Setting :=
  { name, olderName, read := fun value => .ok (set value) }

def unusable (what value : String) : ConfigError :=
  .invalid ("invalid " ++ what ++ ": '" ++ value ++ "'")

def number? (cs : List Char) : Option Nat :=
  match cs with
  | '+' :: digits => Document.Decoder.digitsIn? 10 digits
  | digits => Document.Decoder.digitsIn? 10 digits

def number (what : String) (limit : Nat) (set : Nat → ServerConfig → ServerConfig)
    (value : String) : Except ConfigError (ServerConfig → ServerConfig) :=
  -- Blanks around it do not count.
  match number? (Text.trim value).toList with
  | some n => if n < limit then .ok (set n) else .error (unusable what value)
  | none => .error (unusable what value)

def truth (what : String) (set : Bool → ServerConfig → ServerConfig) (value : String) :
    Except ConfigError (ServerConfig → ServerConfig) :=
  if Text.trim value = "true" then .ok (set true)
  else if Text.trim value = "false" then .ok (set false)
  else .error (unusable what value)

def backend (value : String) : Except ConfigError (ServerConfig → ServerConfig) :=
  match KeyMap.findEntry (Text.toLower value) Backend.names with
  | some b => .ok fun c => { c with directory.backend := b }
  | none => .error (.invalid ("unknown directory backend '" ++ Text.toLower value ++ "'"))

def definition (value : String) : Except ConfigError (ServerConfig → ServerConfig) :=
  match Definition.ofText (Text.Utf8.encode value) with
  | .ok d => .ok fun c => { c with controlPlane.definition := some d }
  | .error e => .error (.invalid e.message)

def all : List Setting :=
  [text "EXTMUX_HOST" fun v c => { c with host := v },
   { name := "EXTMUX_PORT", olderName := some "PORT"
     read := number "port" 0x10000 fun v c => { c with tcpPort := v } },
   text "EXTMUX_EXTENSION_NAME" (fun v c => { c with extension.name := v })
     (some "LC_EXTENSION_NAME"),
   text "EXTMUX_SHARED_SECRET" (fun v c => { c with extension.secret := v })
     (some "LC_SHARED_SECRET"),
   text "EXTMUX_REFERENCE_URL" (fun v c => { c with reference.url := v })
     (some "LC_REFERENCE_SERVICE_URL"),
   text "EXTMUX_REFERENCE_SECRET" (fun v c => { c with reference.secret := v })
     (some "LC_REFERENCE_SHARED_SECRET"),
   { name := "EXTMUX_DIRECTORY_BACKEND", read := backend },
   text "EXTMUX_DIRECTORY_PATH" fun v c => { c with directory.path := v },
   text "EXTMUX_DATABASE_URL" fun v c => { c with directory.databaseUrl := some v },
   { name := "EXTMUX_CACHE_TTL_SECS"
     read := number "cache TTL" 0x10000000000000000 fun v c =>
      { c with directory.cacheTtlSeconds := v } },
   text "EXTMUX_PROVISIONER_URL" fun v c => { c with controlPlane.baseUrl := v },
   text "EXTMUX_PROVISIONER_TOKEN" fun v c => { c with controlPlane.token := some v },
   { name := "EXTMUX_SERVICE_DEFINITION", olderName := some "SERVICE_DEFINITION"
     read := definition },
   { name := "EXTMUX_FORWARD_TIMEOUT_SECS"
     read := number "forward timeout" 0x10000000000000000 fun v c =>
      { c with forwarding.timeoutSeconds := v } },
   text "EXTMUX_LOG_LEVEL" fun v c => { c with logging.level := v },
   { name := "EXTMUX_LOG_JSON"
     read := truth "log format flag" fun v c => { c with logging.json := v } }]

/-- Reads settings one after another up to the first that is unusable. What was read
before it stays. -/
def merge (env : Environment) :
    List Setting → ServerConfig → Except ConfigError Unit × ServerConfig
  | [], config => (.ok (), config)
  | s :: rest, config =>
    match s.value? env with
    | none => merge env rest config
    | some value =>
      match s.read value with
      | .ok set => merge env rest (set config)
      | .error e => (.error e, config)

end Setting

namespace ServerConfig

def mergeVariables (env : Environment) (config : ServerConfig) :
    Except ConfigError Unit × ServerConfig :=
  Setting.merge env Setting.all config

/-! The check. -/

def notSet (name : String) : ConfigError := .invalid (name ++ " is not set")

def required (c : ServerConfig) : List (String × String) :=
  [("extension.name", c.extension.name), ("extension.secret", c.extension.secret),
   ("reference.url", c.reference.url), ("reference.secret", c.reference.secret),
   ("provisioner.base_url", c.controlPlane.baseUrl)]

def checkRequired (c : ServerConfig) : Except ConfigError Unit :=
  match c.required.find? fun r => Text.blank r.2 with
  | some r => .error (notSet r.1)
  | none => .ok ()

def checkDefinition (c : ServerConfig) : Except ConfigError Unit :=
  match c.controlPlane.definition with
  | none => .error (notSet "provisioner.service_definition")
  | some d => d.validate.mapError fun e => .invalid e.message

def checkDirectory (c : ServerConfig) : Except ConfigError Unit :=
  if c.directory.backend = .postgres ∧ c.directory.databaseUrl = none then
    .error (.invalid "directory.database_url is required for the postgres backend")
  else if c.directory.cacheTtlSeconds = 0 then
    .error (.invalid "directory.cache_ttl_secs must be positive")
  else .ok ()

def validate (c : ServerConfig) : Except ConfigError Unit := do
  c.checkRequired
  c.checkDefinition
  c.checkDirectory

end ServerConfig
end TenantRelay
