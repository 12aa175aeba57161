/-! White space as Unicode defines it: 25 code points. Trimming removes it at
both ends and nowhere else. -/
namespace TenantRelay.Text

def isBlank (c : Char) : Bool :=
  (0x9 ≤ c.val && c.val ≤ 0xd) || c.val == 0x20 || c.val == 0x85 || c.val == 0xa0 ||
  c.val == 0x1680 || (0x2000 ≤ c.val && c.val ≤ 0x200a) || c.val == 0x2028 ||
  c.val == 0x2029 || c.val == 0x202f || c.val == 0x205f || c.val == 0x3000

def trimStartChars (cs : List Char) : List Char := cs.dropWhile isBlank

def trimChars (cs : List Char) : List Char :=
  (trimStartChars (trimStartChars cs).reverse).reverse

def trim (s : String) : String := String.ofList (trimChars s.toList)

/-- A text that holds white space only, the empty text included. -/
def blank (s : String) : Bool := s.toList.all isBlank

end TenantRelay.Text
