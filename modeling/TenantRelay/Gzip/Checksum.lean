import TenantRelay.Text.Utf8

/-! The 32-bit cyclic checksum. -/

namespace TenantRelay.Gzip

/-- The checksum's polynomial, lowest power first. -/
def polynomial : UInt32 := 0xedb88320

def divideBit (c : UInt32) : UInt32 := if c &&& 1 = 1 then (c >>> 1) ^^^ polynomial else c >>> 1

def addByte (c : UInt32) (b : UInt8) : UInt32 :=
  divideBit (divideBit (divideBit (divideBit (divideBit (divideBit (divideBit (divideBit
    (c ^^^ b.toUInt32))))))))

def checksum (bytes : Bytes) : UInt32 := bytes.foldl addByte 0xffffffff ^^^ 0xffffffff

end TenantRelay.Gzip
