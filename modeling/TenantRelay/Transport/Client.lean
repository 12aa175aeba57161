/-! How the relay behaves as a client of others. -/

namespace TenantRelay

structure ClientSettings where
  timeoutSeconds : Nat := 30
  connectTimeoutSeconds : Nat := 10
  idlePerHost : Nat := 32
  userAgent : String := "ExtMux/0.1.0"
deriving DecidableEq

end TenantRelay
