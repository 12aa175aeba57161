import TenantRelay.Masking
import TenantRelay.Time.Timestamp

/-! Where a tenant's instance is, and the secret it shares with the relay. -/

namespace TenantRelay

open Document Text

structure Entry where
  tenant : String := ""
  address : String := ""
  secret : String := ""
  createdAt : Timestamp := ⟨⟨1970, 1, 1⟩, 0, 0, 0, 0⟩
deriving DecidableEq

namespace Entry

def fields : List (RecordField Entry) :=
  [.must "tenant_id" Decoder.text fun v e => { e with tenant := v },
   .must "address" Decoder.text fun v e => { e with address := v },
   .must "secret" Decoder.text fun v e => { e with secret := v },
   .must "created_at" Timestamp.decoder fun v e => { e with createdAt := v }]

def decoder : Decoder Entry := record "DirectoryEntry" fields {}

def toJson (e : Entry) : Json :=
  .obj [("tenant_id", .str e.tenant), ("address", .str e.address), ("secret", .str e.secret),
    ("created_at", .str e.createdAt.render)]

def shown (e : Entry) : String :=
  shownRecord "DirectoryEntry"
    [("tenant_id", quoted e.tenant), ("address", quoted e.address),
     ("secret", quoted Masking.redacted), ("created_at", e.createdAt.render)]

end Entry
end TenantRelay
