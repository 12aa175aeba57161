import TenantRelay.Digest.Hmac
import TenantRelay.Text.Blank
import TenantRelay.Text.Hex

/-! Signatures of bodies: hexadecimal text of a digest over the exact bytes that are
sent, keyed with the secret of the instance that receives them. -/

namespace TenantRelay.Signature

def header : String := "lc-ext-sig"

def sign (secret body : Bytes) : String := Text.Hex.encode (Digest.keyed secret body)

/-- White space around a signature and the case of its digits do not count. -/
def verify (body : Bytes) (signature : String) (secret : Bytes) : Bool :=
  match Text.Hex.decode (Text.trim signature) with
  | some digest => digest == Digest.keyed secret body
  | none => false

end TenantRelay.Signature
