import TenantRelay.Text.Utf8

/-! Hexadecimal text: two digits a byte, written in small letters, read in
either case. -/
namespace TenantRelay.Text.Hex

def digit (n : Nat) : Char :=
  if n < 10 then Char.ofNat (48 + n) else Char.ofNat (87 + n)

def value (c : Char) : Option Nat :=
  if '0' ≤ c ∧ c ≤ '9' then some (c.toNat - 48)
  else if 'a' ≤ c ∧ c ≤ 'f' then some (c.toNat - 87)
  else if 'A' ≤ c ∧ c ≤ 'F' then some (c.toNat - 55)
  else none

def encodeByte (b : UInt8) : List Char := [digit (b.toNat / 16), digit (b.toNat % 16)]

def encodeChars (bytes : Bytes) : List Char := bytes.flatMap encodeByte

def encode (bytes : Bytes) : String := String.ofList (encodeChars bytes)

def decodeChars : List Char → Option Bytes
  | [] => some []
  | [_] => none
  | high :: low :: rest => do
    let h ← value high
    let l ← value low
    let tail ← decodeChars rest
    return UInt8.ofNat (16 * h + l) :: tail

def decode (s : String) : Option Bytes := decodeChars s.toList

def ofNat (n : Nat) : List Char := Nat.toDigits 16 n

end TenantRelay.Text.Hex
