import TenantRelay.Metrics.Board

/-! Things to be counted, as values. -/

namespace TenantRelay

inductive Measure where
  | message (kind : String) (status : Nat)
  | forward (target outcome : String)
  | lookup (result : String)
  | refresh (reason : String) (cached : Nat)
  | cached (count : Nat)
  | provisioning (operation outcome : String)
deriving DecidableEq

/-- How long something took is not kept. -/
def Measure.apply (measure : Measure) (m : Metrics) : Metrics :=
  match measure with
  | message kind status => m.recordMessage kind status
  | forward target outcome => m.recordForward target outcome 0
  | lookup result => m.recordLookup result
  | refresh reason left => m.recordRefresh reason left
  | cached count => m.recordCached count
  | provisioning operation outcome => m.recordProvisioning operation outcome

end TenantRelay
