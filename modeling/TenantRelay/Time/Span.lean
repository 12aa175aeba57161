/-! Lengths of time in milliseconds, and how diagnostics show them. -/

namespace TenantRelay.Span

def trimZeros (digits : List Char) : List Char :=
  (digits.reverse.dropWhile (· == '0')).reverse

/-- In the largest unit of which there is at least one. -/
def shown (milliseconds : Nat) : String :=
  let digits (n : Nat) := (Nat.toDigits 10 n)
  if milliseconds == 0 then "0ns"
  else if milliseconds < 1000 then String.ofList (digits milliseconds) ++ "ms"
  else
    let rest := digits (milliseconds % 1000)
    let padded := List.replicate (3 - rest.length) '0' ++ rest
    let fraction := match trimZeros padded with
      | [] => ""
      | kept => "." ++ String.ofList kept
    String.ofList (digits (milliseconds / 1000)) ++ fraction ++ "s"

end TenantRelay.Span
