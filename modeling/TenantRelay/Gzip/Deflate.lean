import TenantRelay.Gzip.Code

/-! Packed data as blocks: plain ones, and ones in a code that is fixed or comes with
the block. -/

namespace TenantRelay.Gzip

/-- A least value, and how many bits are to be read and added to it. -/
structure Extent where
  least : Nat
  width : Nat

def extentsFrom (least : Nat) : List Nat → List Extent
  | [] => []
  | width :: rest => ⟨least, width⟩ :: extentsFrom (least + 1 <<< width) rest

def lengthExtents : List Extent :=
  -- The longest copy has a symbol of its own.
  (extentsFrom 3 [0, 0, 0, 0, 0, 0, 0, 0, 1, 1, 1, 1, 2, 2, 2, 2, 3, 3, 3, 3, 4, 4, 4, 4,
    5, 5, 5, 5]) ++ [⟨258, 0⟩]

def distanceExtents : List Extent :=
  extentsFrom 1 [0, 0, 0, 0, 1, 1, 2, 2, 3, 3, 4, 4, 5, 5, 6, 6, 7, 7, 8, 8, 9, 9, 10, 10,
    11, 11, 12, 12, 13, 13]

def inExtent (extents : List Extent) (n : Nat) : Read Nat := do
  match extents[n]? with
  | none => throw .corrupt
  | some extent => return extent.least + (← Read.number extent.width)

structure Codes where
  literals : Code
  distances : Code

def fixedCodes : Codes :=
  { literals := .ofLengths (List.replicate 144 8 ++ List.replicate 112 9 ++
      List.replicate 24 7 ++ List.replicate 8 8)
    distances := .ofLengths (List.replicate 32 5) }

def lengthOrder : List Nat := [16, 17, 18, 0, 8, 7, 9, 6, 10, 5, 11, 4, 12, 3, 13, 2, 14, 1, 15]

def readRun (code : Code) (previous : Option Nat) : Read (Nat × Nat) := do
  match ← code.symbol, previous with
  | 16, none => throw .corrupt
  | 16, some length => return (length, 3 + (← Read.number 2))
  | 17, _ => return (0, 3 + (← Read.number 3))
  | 18, _ => return (0, 11 + (← Read.number 7))
  | length, _ => return (length, 1)

def readLengths (code : Code) (total : Nat) : Nat → List Nat → Read (List Nat)
  | 0, lengths => return lengths
  | budget + 1, lengths => do
    if total ≤ lengths.length then return lengths
    let (length, times) ← readRun code lengths.head?
    readLengths code total budget (List.replicate times length ++ lengths)

def demand (holds : Bool) : Read Unit := if holds then return () else throw .corrupt

def readCodes : Read Codes := do
  let literals := 257 + (← Read.number 5)
  let distances := 1 + (← Read.number 5)
  let written := 4 + (← Read.number 4)
  demand (literals ≤ 286 && distances ≤ 30)
  let widths ← (lengthOrder.take written).mapM fun place => return (place, ← Read.number 3)
  let code := Code.ofLengths ((List.range 19).map fun place => (widths.lookup place).getD 0)
  demand code.isFull
  let total := literals + distances
  let lengths ← readLengths code total total []
  demand (lengths.length == total)
  let lengths := lengths.reverse
  let codes : Codes := ⟨.ofLengths (lengths.take literals), .ofLengths (lengths.drop literals)⟩
  demand codes.distances.isUsable
  demand codes.literals.isUsable
  return codes

def readSymbols (codes : Codes) : Nat → Read Unit
  | 0 => throw .cut
  | budget + 1 => do
    let symbol ← codes.literals.symbol
    if symbol < 256 then
      Read.give (.byte symbol.toUInt8)
      readSymbols codes budget
    else if symbol = 256 then return ()
    else
      let length ← inExtent lengthExtents (symbol - 257)
      let distance ← inExtent distanceExtents (← codes.distances.symbol)
      Read.give (.copy length distance)
      readSymbols codes budget

def readPlain : Nat → Read Unit
  | 0 => return ()
  | left + 1 => do
    Read.give (.byte (← Read.byte))
    readPlain left

/-- The budget is the number of bits that there are. Every symbol and every block
takes up at least one. -/
def readBlock (budget : Nat) : Read Unit := do
  match ← Read.number 2 with
  | 0 =>
    Read.align
    let length ← Read.number 16
    demand (length + (← Read.number 16) == 65535)
    readPlain length
  | 1 => readSymbols fixedCodes budget
  | 2 => readSymbols (← readCodes) budget
  | _ => throw .corrupt

def readBlocks (budget : Nat) : Nat → Read Unit
  | 0 => throw .cut
  | left + 1 => do
    let last ← Read.bit
    readBlock budget
    if last then return () else readBlocks budget left

def readPacked (bytes : Bytes) : Except Stop Unit × Reading :=
  let budget := 8 * bytes.length + 1
  readBlocks budget budget { bytes }

def writePiece (out : Array UInt8) : Piece → Array UInt8
  | .byte b => out.push b
  | .copy length distance =>
    (List.range length).foldl (fun out _ =>
      out.push (if distance ≤ out.size then out.getD (out.size - distance) 0 else 0)) out

namespace Reading

def size (r : Reading) : Nat := r.pieces.foldl (fun total p => total + p.size) 0

/-- What lies before the start of the data is taken to be zeros. -/
def data (r : Reading) : Bytes := (r.pieces.reverse.foldl writePiece #[]).toList

end Reading
end TenantRelay.Gzip
