import TenantRelay.Envelope.Tenant

/-! Clients that act for one tenant, as handlers get them. -/

namespace TenantRelay

open Text

structure Client where
  access : Tenant
deriving DecidableEq

def Client.shown (c : Client) : String := shownRecord "TenantClient" [("access", c.access.shown)]

/-- Makes a client, or says why the tenant's access is of no use. -/
abbrev ClientFactory := Tenant → Except String Client

def ClientFactory.default : ClientFactory := fun tenant =>
  match tenant.validate with
  | .ok () => .ok ⟨tenant⟩
  | .error e => .error e.message

end TenantRelay
