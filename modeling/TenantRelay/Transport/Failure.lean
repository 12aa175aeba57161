/-! Exchanges that come to nothing. -/

namespace TenantRelay

/-- How far an exchange got. -/
inductive TransportStage where
  | building
  | sending
  | receiving
deriving DecidableEq

structure TransportFailure where
  stage : TransportStage
  url : Option String
  causes : List String := []
  timedOut : Bool := false
deriving DecidableEq

namespace TransportFailure

def what : TransportStage → String
  | .building => "builder error"
  | .sending => "error sending request"
  | .receiving => "error decoding response body"

def message (f : TransportFailure) : String :=
  what f.stage ++ match f.url with
    | some url => " for url (" ++ url ++ ")"
    | none => ""

def chain (f : TransportFailure) : List String := f.message :: f.causes

end TransportFailure
end TenantRelay
