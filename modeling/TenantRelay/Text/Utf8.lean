/-! Bytes of texts. A text has one byte form. Bytes that are no text are read
leniently by putting the replacement character in the place of each longest
run that begins a character and does not finish it. -/
namespace TenantRelay

abbrev Bytes := List UInt8

namespace Text.Utf8

def encode (s : String) : Bytes := s.toList.flatMap String.utf8EncodeChar

def replacement : Char := Char.ofNat 0xfffd

def width (b : UInt8) : Option Nat :=
  if b < 0x80 then some 1
  else if 0xc2 ≤ b && b ≤ 0xdf then some 2
  else if 0xe0 ≤ b && b ≤ 0xef then some 3
  else if 0xf0 ≤ b && b ≤ 0xf4 then some 4
  else none

def continues (b : UInt8) : Bool := 0x80 ≤ b && b ≤ 0xbf

/-- The second byte excludes overlong forms, surrogates and what is past the
last code point. -/
def follows (first second : UInt8) : Bool :=
  continues second &&
    (if first == 0xe0 then 0xa0 ≤ second
     else if first == 0xed then second ≤ 0x9f
     else if first == 0xf0 then 0x90 ≤ second
     else if first == 0xf4 then second ≤ 0x8f
     else true)

def low (b : UInt8) : Nat := b.toNat % 64

/-- Reads bytes as characters, with a hole for each run that is none. -/
def pieces : Bytes → List (Option Char)
  | [] => []
  | a :: rest =>
    match width a with
    | none => none :: pieces rest
    | some 1 => some (Char.ofNat a.toNat) :: pieces rest
    | some w =>
      match rest with
      | [] => [none]
      | b :: rest₁ =>
        if follows a b then
          if w == 2 then some (Char.ofNat (a.toNat % 32 * 64 + low b)) :: pieces rest₁
          else match rest₁ with
            | [] => [none]
            | c :: rest₂ =>
              if continues c then
                if w == 3 then
                  some (Char.ofNat ((a.toNat % 16 * 64 + low b) * 64 + low c)) :: pieces rest₂
                else match rest₂ with
                  | [] => [none]
                  | d :: rest₃ =>
                    if continues d then
                      some (Char.ofNat (((a.toNat % 8 * 64 + low b) * 64 + low c) * 64 + low d)) ::
                        pieces rest₃
                    else none :: pieces (d :: rest₃)
              else none :: pieces (c :: rest₂)
        else none :: pieces (b :: rest₁)
termination_by bytes => bytes.length

def decode? (bytes : Bytes) : Option String :=
  ((pieces bytes).mapM id).map String.ofList

def decodeLossy (bytes : Bytes) : String :=
  String.ofList ((pieces bytes).map fun piece => piece.getD replacement)

end Text.Utf8
end TenantRelay
