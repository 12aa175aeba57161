import TenantRelay.Envelope.Error
import TenantRelay.Text.Blank

/-! Who a message is about, and the credential that acts for them. -/

namespace TenantRelay

structure Tenant where
  id : String := ""
  credential : String := ""
  ident : Option String := none
deriving DecidableEq

namespace Tenant

open Document Text

def fields : List (RecordField Tenant) :=
  [.of "oid" Decoder.text fun v t => { t with id := v },
   .of "jwt" Decoder.text fun v t => { t with credential := v },
   .of "ident" (Decoder.option Decoder.text) fun v t => { t with ident := v }]

def decoder : Decoder Tenant := record "TenantAccess" fields {}

def toJson (t : Tenant) : Json :=
  .obj ([("oid", .str t.id), ("jwt", .str t.credential)] ++ Json.member? "ident" (t.ident.map .str))

def validate (t : Tenant) : Except EnvelopeError Unit :=
  if blank t.id then .error (.invalidTenant "missing tenant id")
  else if t.credential = "" then
    .error (.invalidTenant ("missing credential for tenant " ++ t.id))
  else .ok ()

/-- The credential is never shown. -/
def shown (t : Tenant) : String :=
  shownRecord "TenantAccess"
    [("id", quoted t.id), ("credential", quoted "<redacted>"),
     ("ident", shownOption (t.ident.map quoted))]

end Tenant
end TenantRelay
