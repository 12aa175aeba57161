import TenantRelay.Gzip.Checksum
import TenantRelay.Gzip.Deflate

/-!
Packed bodies: a header, the packed data, and a checksum and size by which the data is
checked. The size of what comes out is bounded, and what follows the first packed
part is not looked at.
-/

namespace TenantRelay.Gzip

inductive Fault where
  | badHeader
  | longField
  | ended
  | stopped (cause : Stop)
  | checksum
  | tooLong (limit : Nat)
deriving DecidableEq

def Fault.message : Fault → String
  | badHeader => "invalid gzip header"
  | longField => "gzip header field too long"
  | ended => "unexpected end of file"
  | stopped .cut => "incomplete deflate stream"
  | stopped .corrupt => "corrupt deflate stream"
  | checksum => "corrupt gzip stream does not have a matching checksum"
  | tooLong limit => "body exceeds " ++ toString limit ++ " bytes once decompressed"

def part (n : Nat) (bytes : Bytes) : Except Fault (Bytes × Bytes) :=
  if n ≤ bytes.length then .ok (bytes.take n, bytes.drop n) else .error .ended

def little : Bytes → Nat
  | [] => 0
  | b :: rest => b.toNat + 256 * little rest

/-- What follows a text that a zero byte ends. A text has a limit of its own. -/
def afterText : Nat → Bytes → Except Fault Bytes
  | _, [] => .error .ended
  | room, b :: rest =>
    if b = 0 then .ok rest
    else match room with
      | 0 => .error .longField
      | room + 1 => afterText room rest

def fieldLimit : Nat := 65535

def afterHeader (bytes : Bytes) : Except Fault Bytes := do
  let (front, rest) ← part 10 bytes
  let flags := ((front.drop 3).headD 0).toNat
  if front.take 3 ≠ [0x1f, 0x8b, 8] then throw .badHeader
  if 32 ≤ flags then throw .badHeader
  let rest ←
    if flags.testBit 2 then do
      let (size, rest) ← part 2 rest
      let (_, rest) ← part (little size) rest
      pure rest
    else pure rest
  let rest ← if flags.testBit 3 then afterText fieldLimit rest else pure rest
  let rest ← if flags.testBit 4 then afterText fieldLimit rest else pure rest
  if flags.testBit 1 then
    let seen := bytes.take (bytes.length - rest.length)
    let (stored, rest) ← part 2 rest
    if little stored ≠ (checksum seen).toNat % 65536 then throw .checksum
    return rest
  else return rest

/-- Data is made a window at a time, so a fault in it is met before the data that
stands before the fault in the same window. -/
def window : Nat := 32768

def verified (reading : Reading) : Except Fault Bytes := do
  let (sum, rest) ← part 4 reading.bytes
  let (size, _) ← part 4 rest
  let data := reading.data
  if little sum = (checksum data).toNat ∧ little size = reading.size % 0x100000000 then return data
  else throw .checksum

/-- The data of a packed body, of which no more than `limit` bytes are accepted. -/
def expand (limit : Nat) (bytes : Bytes) : Except Fault Bytes :=
  -- The byte past the limit is asked for, too. Of the greatest limit there is, one more is none.
  if limit + 1 = UInt64.size then .ok []
  else do
    let rest ← afterHeader bytes
    let (ending, reading) := readPacked rest
    match ending with
    | .ok () => if reading.size ≤ limit then verified reading else throw (.tooLong limit)
    | .error .cut => throw (if reading.size ≤ limit then .stopped .cut else .tooLong limit)
    | .error .corrupt =>
      throw (if reading.size / window ≤ limit / window then .stopped .corrupt else .tooLong limit)

end TenantRelay.Gzip
