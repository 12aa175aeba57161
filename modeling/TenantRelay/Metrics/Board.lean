import TenantRelay.Metrics.Series

/-! The numbers an operator watches, and the text they are read in. -/

namespace TenantRelay

structure Metrics where
  messages : Counts := []
  forwards : Counts := []
  durations : List (String × Durations) := []
  lookups : Counts := []
  refreshes : Counts := []
  cached : Nat := 0
  provisioning : Counts := []

namespace Metrics

def recordMessage (m : Metrics) (kind : String) (status : Nat) : Metrics :=
  { m with messages := m.messages.add [kind, toString status] }

def observeIn (target : String) (seconds : Float) :
    List (String × Durations) → List (String × Durations)
  | [] => [(target, Durations.none.observe seconds)]
  | (other, d) :: rest =>
    if other = target then (other, d.observe seconds) :: rest
    else (other, d) :: observeIn target seconds rest

def recordForward (m : Metrics) (target outcome : String) (seconds : Float) : Metrics :=
  { m with
    forwards := m.forwards.add [outcome, target]
    durations := observeIn target seconds m.durations }

def recordLookup (m : Metrics) (result : String) : Metrics :=
  { m with lookups := m.lookups.add [result] }

def recordRefresh (m : Metrics) (reason : String) (cached : Nat) : Metrics :=
  { m with refreshes := m.refreshes.add [reason], cached }

def recordCached (m : Metrics) (cached : Nat) : Metrics := { m with cached }

def recordProvisioning (m : Metrics) (operation outcome : String) : Metrics :=
  { m with provisioning := m.provisioning.add [operation, outcome] }

def before : List String → List String → Bool
  | [], _ => true
  | _ :: _, [] => false
  | a :: as, b :: bs => a < b || (a == b && before as bs)

def sorted (counts : Counts) : Counts := counts.mergeSort fun a b => before a.1 b.1

structure Family where
  name : String
  help : String
  kind : String
  samples : List String

def counter (name help : String) (labels : List String) (counts : Counts) : Family :=
  { name, help, kind := "counter"
    samples := (sorted counts).map fun (values, n) =>
      Sample.line name (labels.zip values) (toString n) }

def gauge (name help : String) (value : Nat) : Family :=
  { name, help, kind := "gauge"
    samples := [Sample.line name [] (Sample.number (Int64.ofNat value).toFloat)] }

def durationLines (name target : String) (d : Durations) : List String :=
  let bucket (bound : String) (n : Nat) : String :=
    Sample.line (name ++ "_bucket") [("target", target), ("le", bound)] (toString n)
  (Durations.bounds.zip d.within).map (fun (bound, n) => bucket (Sample.number bound) n) ++
    [bucket "+Inf" d.total,
     Sample.line (name ++ "_sum") [("target", target)] (Sample.number d.sum),
     Sample.line (name ++ "_count") [("target", target)] (toString d.total)]

def histogram (name help : String) (durations : List (String × Durations)) : Family :=
  { name, help, kind := "histogram"
    samples := (durations.mergeSort fun a b => a.1 ≤ b.1).flatMap fun (target, d) =>
      durationLines name target d }

def families (m : Metrics) : List Family :=
  [gauge "extmux_directory_cached_entries" "Entries currently held in the directory cache" m.cached,
   counter "extmux_directory_lookups_total" "Service directory lookups by result" ["result"]
     m.lookups,
   counter "extmux_directory_refreshes_total" "Service directory cache invalidations" ["reason"]
     m.refreshes,
   histogram "extmux_forward_duration_seconds" "Forwarding round-trip duration in seconds"
     m.durations,
   counter "extmux_forwards_total" "Messages forwarded to tenant instances" ["outcome", "target"]
     m.forwards,
   counter "extmux_messages_total" "Inbound messages by kind and status" ["kind", "status"]
     m.messages,
   counter "extmux_provisioning_total" "Instance provisioning operations by outcome"
     ["operation", "outcome"] m.provisioning]

/-- A family without samples is not shown. -/
def Family.lines (f : Family) : List String :=
  if f.samples.isEmpty then []
  else ["# HELP " ++ f.name ++ " " ++ f.help, "# TYPE " ++ f.name ++ " " ++ f.kind] ++ f.samples

def lines (m : Metrics) : List String := m.families.flatMap Family.lines

def text (m : Metrics) : String := String.join (m.lines.map (· ++ "\n"))

end Metrics
end TenantRelay
