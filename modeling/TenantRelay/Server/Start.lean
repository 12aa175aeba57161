import TenantRelay.Directory.Holdings
import TenantRelay.Instance.ControlPlane
import TenantRelay.Multiplex.Multiplexer
import TenantRelay.Multiplex.Reference
import TenantRelay.Server.Config

/-!
Putting a server together. The store is opened first; then the reference instance is
asked what the extension offers, and a server that gets no answer does not start.
-/

namespace TenantRelay

inductive StartError where
  | postgres
  | store (path : String) (cause : DirectoryError)
  | schema (url : String) (cause : MultiplexError)
  | noDefinition
  | controlPlane (cause : ProvisionError)

namespace StartError

def chain : StartError → List String
  | postgres => ["PostgreSQL directory support not compiled in; rebuild with --features postgres"]
  | store path cause => ("failed to open directory file " ++ path) :: cause.message :: cause.causes
  | schema url cause => ("failed to load schema from " ++ url) :: cause.message :: cause.causes
  | noDefinition => ["provisioner.service_definition is not set"]
  | controlPlane cause => cause.message :: cause.causes

def message (e : StartError) : String := String.intercalate ": " e.chain

end StartError

/-- The parts of a server that is ready to serve. -/
structure Assembly where
  multiplexer : Multiplexer
  controlPlane : ControlPlane
  definition : Definition
  cacheTtl : Nat
  dispatcher : Dispatcher Program

namespace ServerConfig

def openStore (c : DirectoryConfig) (home : String) (disk : Disk) :
    Except StartError (DirectoryStore × Disk) :=
  match c.backend with
  | .memory => .ok (.memory, disk)
  | .postgres => .error .postgres
  | .file =>
    match FileStore.create disk home c.path with
    | .ok (store, disk) => .ok (.file store, disk)
    | .error e => .error (.store c.path e)

def forwarder (c : ServerConfig) : Forwarder := ⟨c.forwarding.client.timeoutSeconds⟩

def cacheTtl (c : ServerConfig) : Nat := c.directory.cacheTtlSeconds * 1000

def assemble (c : ServerConfig) (schema : Schema) : Except StartError Assembly :=
  match c.controlPlane.definition with
  | none => .error .noDefinition
  | some definition =>
    match ControlPlane.create? c.controlPlane.baseUrl c.extension.name c.controlPlane.token with
    | .error e => .error (.controlPlane e)
    | .ok controlPlane =>
      let multiplexer : Multiplexer := ⟨c.forwarder⟩
      .ok
        { multiplexer, controlPlane, definition, cacheTtl := c.cacheTtl
          dispatcher := multiplexer.dispatcher c.extension.name c.extension.secret schema }

def start (c : ServerConfig) : Program (Except StartError Assembly) := do
  match ← Reference.fetchSchema c.forwarder c.reference.url c.reference.secret with
  | .error e => return .error (.schema c.reference.url e)
  | .ok schema => return c.assemble schema

end ServerConfig
end TenantRelay
