import TenantRelay.Http.Routing
import TenantRelay.Metrics.Board

/-! What an operator can ask of a running server. -/

namespace TenantRelay

structure Component where
  name : String
  status : String

namespace Health

def readyStatus : String := "ready"

def component (name : String) (ready : Bool) : Component :=
  ⟨name, if ready then readyStatus else "not_ready"⟩

def componentJson (c : Component) : Json := .obj [("name", .str c.name), ("status", .str c.status)]

def alive : Http.Answer := .json 200 (.obj [("status", .str "ok")])

/-- A server is ready when every part it needs is; one that has no parts to ask always
is. -/
def readiness (components : Option (List Component)) : Http.Answer :=
  match components with
  | none => .json 200 (.obj [("status", .str readyStatus)])
  | some all =>
    match all.filter fun c => c.status != readyStatus with
    | [] => .json 200 (.obj [("status", .str readyStatus),
        ("components", .arr (all.map componentJson))])
    | missing => .json 503 (.obj [("status", .str "not_ready"),
        ("components", .arr (all.map componentJson)),
        ("message", .str ("not ready: " ++ String.intercalate ", " (missing.map (·.name))))])

def numbers (metrics : Metrics) : Http.Answer :=
  { status := 200, headers := [("content-type", "text/plain; version=0.0.4")]
    body := Text.Utf8.encode metrics.text }

def routes {m : Type → Type} [Monad m] (components : m (Option (List Component)))
    (metrics : m Metrics) : List (Http.Route m) :=
  [⟨"/healthz", "GET", fun _ => return alive⟩,
   ⟨"/readyz", "GET", fun _ => return readiness (← components)⟩,
   ⟨"/metrics", "GET", fun _ => return numbers (← metrics)⟩]

end Health
end TenantRelay
