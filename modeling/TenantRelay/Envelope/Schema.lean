import TenantRelay.Document.Decode

/-! What an extension offers: its views, its configuration, the actions it takes
requests for and the events it wants to be told of. Only the names matter here. -/

namespace TenantRelay

open Document

structure Schema where
  views : List Json := []
  config : Json := .null
  request : KeyMap Json := ∅
  requiredEvents : List String := []

namespace Schema

def fields : List (RecordField Schema) :=
  [.of "views" (Decoder.list Decoder.json) fun v s => { s with views := v },
   .of "config" Decoder.json fun v s => { s with config := v },
   .of "request" (Decoder.map Decoder.json) fun v s => { s with request := v },
   .of "required_events" (Decoder.list Decoder.text) fun v s => { s with requiredEvents := v }]

def decoder : Decoder Schema := record "SchemaResponse" fields {}

def toJson (s : Schema) : Json :=
  .obj [("views", .arr s.views), ("config", s.config), ("request", .ofDict s.request),
    ("required_events", .ofStrings s.requiredEvents)]

def actions (s : Schema) : List String := s.request.keys

end Schema
end TenantRelay
