import TenantRelay.Document.Decode

/-! The envelope of answers. -/

namespace TenantRelay

open Document

structure Continuation where
  delaySeconds : UInt64 := 0
  action : String := ""
  state : Dict := ∅

structure Usage where
  sku : String := ""
  value : UInt64 := 0
deriving DecidableEq

structure UsageReport where
  idempotentKey : String := ""
  metrics : List Usage := []
deriving DecidableEq

/-- Whether a failure is worth another try is not part of the text: it is told by the
status the text comes with. -/
structure Response where
  error : String := ""
  version : UInt64 := 0
  data : Option Json := none
  continuations : List Continuation := []
  metrics : Option UsageReport := none
  retriable : Option Bool := none

namespace Continuation

def fields : List (RecordField Continuation) :=
  [.of "delay_seconds" Decoder.u64 fun v c => { c with delaySeconds := v },
   .of "action" Decoder.text fun v c => { c with action := v },
   .of "state" Decoder.dict fun v c => { c with state := v }]

def decoder : Decoder Continuation := record "ContinuationRequest" fields {}

def toJson (c : Continuation) : Json :=
  .obj [("delay_seconds", .num (.nat c.delaySeconds)), ("action", .str c.action),
    ("state", .ofDict c.state)]

end Continuation

namespace Usage

def fields : List (RecordField Usage) :=
  [.must "sku" Decoder.text fun v u => { u with sku := v },
   .must "value" Decoder.u64 fun v u => { u with value := v }]

def decoder : Decoder Usage := record "Metric" fields {}

def toJson (u : Usage) : Json := .obj [("sku", .str u.sku), ("value", .num (.nat u.value))]

end Usage

namespace UsageReport

def fields : List (RecordField UsageReport) :=
  [.of "idempotent_key" Decoder.text fun v r => { r with idempotentKey := v },
   .of "metrics" (Decoder.list Usage.decoder) fun v r => { r with metrics := v }]

def decoder : Decoder UsageReport := record "MetricReport" fields {}

def toJson (r : UsageReport) : Json :=
  .obj [("idempotent_key", .str r.idempotentKey), ("metrics", .arr (r.metrics.map Usage.toJson))]

end UsageReport

namespace Response

def fields : List (RecordField Response) :=
  [.of "error" Decoder.text fun v r => { r with error := v },
   .of "version" Decoder.u64 fun v r => { r with version := v },
   .of "data" (Decoder.option Decoder.json) fun v r => { r with data := v },
   .of "continuations" (Decoder.list Continuation.decoder) fun v r => { r with continuations := v },
   .of "metrics" (Decoder.option UsageReport.decoder) fun v r => { r with metrics := v }]

def decoder : Decoder Response := record "Response" fields {}

def continuationsJson (all : List Continuation) : Option Json :=
  if all.isEmpty then none else some (.arr (all.map Continuation.toJson))

def toJson (r : Response) : Json :=
  .obj ([("error", .str r.error), ("version", .num (.nat r.version))] ++
    Json.member? "data" r.data ++
    Json.member? "continuations" (continuationsJson r.continuations) ++
    Json.member? "metrics" (r.metrics.map UsageReport.toJson))

def encode (r : Response) : Bytes := Text.Utf8.encode r.toJson.compact

def isError (r : Response) : Bool := r.error != ""

def isRetriable (r : Response) : Bool := r.retriable.getD true

end Response
end TenantRelay
