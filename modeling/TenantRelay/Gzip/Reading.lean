import TenantRelay.Text.Utf8

/-! Reading packed data bit by bit, the lowest bit of each byte first. What was read
before a fault is kept. -/

namespace TenantRelay.Gzip

inductive Piece where
  | byte (value : UInt8)
  /-- Bytes that stand somewhat before are to be written again. -/
  | copy (length distance : Nat)
deriving DecidableEq

def Piece.size : Piece → Nat
  | byte _ => 1
  | copy length _ => length

structure Reading where
  held : List Bool := []
  bytes : Bytes
  /-- The last one first. -/
  pieces : List Piece := []

inductive Stop where
  | cut
  | corrupt
deriving DecidableEq

abbrev Read := ExceptT Stop (StateM Reading)

namespace Read

def bit : Read Bool := do
  let r ← get
  match r.held, r.bytes with
  | b :: held, _ =>
    set { r with held }
    return b
  | [], byte :: bytes =>
    let n := byte.toNat
    set { r with held := [n.testBit 1, n.testBit 2, n.testBit 3, n.testBit 4, n.testBit 5,
            n.testBit 6, n.testBit 7], bytes }
    return n.testBit 0
  | [], [] => throw .cut

def number : Nat → Read Nat
  | 0 => return 0
  | width + 1 => do
    let low ← bit
    let high ← number width
    return low.toNat + 2 * high

def align : Read Unit := modify fun r => { r with held := [] }

def byte : Read UInt8 := do
  let r ← get
  match r.bytes with
  | b :: bytes =>
    set { r with bytes }
    return b
  | [] => throw .cut

def give (piece : Piece) : Read Unit := modify fun r => { r with pieces := piece :: r.pieces }

end Read
end TenantRelay.Gzip
