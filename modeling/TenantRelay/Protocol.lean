/-! Constants of the message protocol. -/

namespace TenantRelay

/-- The version of every message and answer that is written here. -/
def protocolVersion : UInt64 := 20221218

end TenantRelay
