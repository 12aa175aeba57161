import TenantRelay.Text.Hex

/-! Percent signs in addresses: what may not stand for itself is written as its bytes,
each as a percent sign and two digits. -/

namespace TenantRelay.Url

/-- Characters that are written as bytes in a part of an address. Those that are not
printable ASCII are so in every part. -/
abbrev EscapeSet := List Char

def fragmentEscapes : EscapeSet := [' ', '"', '<', '>', Char.ofNat 96]

def pathEscapes : EscapeSet := fragmentEscapes ++ ['#', '?', '\x7b', '\x7d']

def userEscapes : EscapeSet := pathEscapes ++ ['/', ':', ';', '=', '@', '[', '\\', ']', '^', '|']

def queryEscapes : EscapeSet := [' ', '"', '#', '<', '>']

def webQueryEscapes : EscapeSet := '\'' :: queryEscapes

def isPlain (c : Char) : Bool := 0x20 ≤ c.val && c.val < 0x7f

def escapeByte (b : UInt8) : List Char :=
  '%' :: [(Text.Hex.digit (b.toNat / 16)).toUpper, (Text.Hex.digit (b.toNat % 16)).toUpper]

def escapeChar (set : EscapeSet) (c : Char) : List Char :=
  if isPlain c && !set.contains c then [c] else (String.utf8EncodeChar c).flatMap escapeByte

def escape (set : EscapeSet) (cs : List Char) : List Char := cs.flatMap (escapeChar set)

def unescape : List Char → Bytes
  | [] => []
  | '%' :: high :: low :: rest =>
    match Text.Hex.value high, Text.Hex.value low with
    | some h, some l => UInt8.ofNat (16 * h + l) :: unescape rest
    | _, _ => 0x25 :: unescape (high :: low :: rest)
  | c :: rest => String.utf8EncodeChar c ++ unescape rest

end TenantRelay.Url
