import TenantRelay.Gzip.Reading

/-! Codes whose words are told by their lengths alone: shorter words come first, and
words of one length are in the order of their symbols. -/

namespace TenantRelay.Gzip

def longest : Nat := 15

structure Code where
  counts : List Nat
  symbols : Array Nat

namespace Code

/-- Symbols without a word have length zero. -/
def ofLengths (lengths : List Nat) : Code :=
  let widths := (List.range longest).map (· + 1)
  { counts := widths.map fun w => lengths.count w
    symbols := (widths.flatMap fun w =>
      (lengths.zipIdx.filter fun l => l.1 == w).map (·.2)).toArray }

def weight : List Nat → Nat
  | [] => 0
  | count :: rest => count <<< rest.length + weight rest

def isFull (c : Code) : Bool := weight c.counts == 1 <<< c.counts.length

/-- A code may leave words unused only if it has no more than one. -/
def isUsable (c : Code) : Bool := c.isFull || c.symbols.size ≤ 1

/-- Follows a word bit by bit. Of the words of each length the first is `first`, and
its symbol stands at `index`. -/
def follow (symbols : Array Nat) : List Nat → (word first index : Nat) → Read Nat
  | [], _, _, _ => throw .corrupt
  | count :: rest, word, first, index => do
    let word := 2 * word + (← Read.bit).toNat
    if word < first + count then
      match symbols[index + (word - first)]? with
      | some symbol => return symbol
      | none => throw .corrupt
    else follow symbols rest word (2 * (first + count)) (index + count)

def symbol (c : Code) : Read Nat := follow c.symbols c.counts 0 0 0

end Code
end TenantRelay.Gzip
