/-! Decimal text of binary floating-point numbers: the fewest digits that read
back as the same number and, of those, the nearest to it. -/
namespace TenantRelay.Number

/-- A finite number as sign, significand and binary exponent. `lower` says that
the next smaller number lies half as far away as the next larger one. -/
structure Binary where
  negative : Bool
  significand : Nat
  exponent : Int
  lower : Bool

def Binary.ofFloat (x : Float) : Binary :=
  let bits : Nat := x.toBits.toNat
  let fraction : Nat := bits % 0x10000000000000
  let biased : Nat := bits / 0x10000000000000 % 0x800
  let negative := decide (0x8000000000000000 ≤ bits)
  if biased == 0 then ⟨negative, fraction, -1074, false⟩
  else ⟨negative, 0x10000000000000 + fraction, (biased : Int) - 1075, fraction == 0 && biased != 1⟩

structure Decimal where
  digits : Nat
  exponent : Int
deriving DecidableEq

/-- The reals that are read as one number: `(low / scale, high / scale)` around
`mid / scale`, ends included when `closed`. -/
structure Interval where
  low : Nat
  mid : Nat
  high : Nat
  scale : Nat
  closed : Bool

def Interval.ofBinary (b : Binary) : Interval :=
  let up := 1 <<< (b.exponent - 2).toNat
  { low := (4 * b.significand - (if b.lower then 1 else 2)) * up
    mid := 4 * b.significand * up
    high := (4 * b.significand + 2) * up
    scale := 1 <<< (2 - b.exponent).toNat
    closed := b.significand % 2 == 0 }

def Interval.holds (i : Interval) (value scale : Nat) : Bool :=
  let v := value * i.scale
  if i.closed then i.low * scale ≤ v && v ≤ i.high * scale
  else i.low * scale < v && v < i.high * scale

/-- The point of the grid of multiples of `10 ^ power` that lies in the interval
and is nearest to its middle; of two equally near the even one. -/
def Interval.onGrid (i : Interval) (power : Int) : Option Nat :=
  let up := Nat.pow 10 power.toNat
  let down := Nat.pow 10 (-power).toNat
  let below := i.mid * down / (i.scale * up)
  let low := i.holds (below * up) down
  let high := i.holds ((below + 1) * up) down
  if low && high then
    let doubled := 2 * (i.mid * down)
    let middle := (2 * below + 1) * (i.scale * up)
    if doubled < middle || (doubled == middle && below % 2 == 0) then some below else some (below + 1)
  else if low then some below
  else if high then some (below + 1)
  else none

/-- Tries grids from coarse to fine. The finest one has a point in every interval. -/
def Interval.coarsest (i : Interval) : Nat → Decimal
  | 0 => ⟨(i.onGrid (-324)).getD 0, -324⟩
  | steps + 1 =>
    let power : Int := (steps : Int) + 1 - 324
    match i.onGrid power with
    | some digits => ⟨digits, power⟩
    | none => i.coarsest steps

def shortest (b : Binary) : Decimal :=
  if b.significand == 0 then ⟨0, 0⟩ else (Interval.ofBinary b).coarsest 633

/-- How digits become text: where the point may stand before an exponent is
written, and whether a whole number keeps a zero after the point. -/
structure Layout where
  positional : Int → Bool
  wholeZero : Bool
  positiveSign : String

def zeros (n : Nat) : String := String.ofList (List.replicate n '0')

def Layout.place (layout : Layout) (digits : List Char) (point : Int) : String :=
  if layout.positional point then
    if point ≤ 0 then "0." ++ zeros (-point).toNat ++ String.ofList digits
    else if digits.length ≤ point.toNat then
      String.ofList digits ++ zeros (point.toNat - digits.length) ++
        (if layout.wholeZero then ".0" else "")
    else String.ofList (digits.take point.toNat) ++ "." ++ String.ofList (digits.drop point.toNat)
  else
    let power := point - 1
    let fraction := match digits.drop 1 with
      | [] => ""
      | rest => "." ++ String.ofList rest
    String.ofList (digits.take 1) ++ fraction ++ "e" ++
      (if power < 0 then "-" else layout.positiveSign) ++ String.ofList (Nat.toDigits 10 power.natAbs)

def Layout.render (layout : Layout) (x : Float) : String :=
  if x.isNaN then "NaN"
  else if x.isInf then (if x < 0 then "-inf" else "inf")
  else
    let b := Binary.ofFloat x
    let sign := if b.negative then "-" else ""
    let d := shortest b
    if d.digits == 0 then sign ++ (if layout.wholeZero then "0.0" else "0")
    else
      let digits := Nat.toDigits 10 d.digits
      sign ++ layout.place digits (digits.length + d.exponent)

def plain : Layout := ⟨fun _ => true, false, ""⟩

end TenantRelay.Number
