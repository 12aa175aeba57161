import TenantRelay.Digest.Sha256

/-! A digest of bytes that depends on a key of any length. -/

namespace TenantRelay.Digest

def keyBlock (key : Bytes) : Bytes :=
  let short := if 64 < key.length then Sha256.digest key else key
  short ++ List.replicate (64 - short.length) 0

def masked (mask : UInt8) (block : Bytes) : Bytes := block.map (· ^^^ mask)

def keyed (key message : Bytes) : Bytes :=
  let block := keyBlock key
  Sha256.digest (masked 0x5c block ++ Sha256.digest (masked 0x36 block ++ message))

theorem length_keyed (key message : Bytes) : (keyed key message).length = 32 := rfl

end TenantRelay.Digest
