import TenantRelay.Time.Calendar
import TenantRelay.Text.Blank
import TenantRelay.Document.Decode

/-!
Moments in universal time and their text. Reading is lenient about spaces, the
letter between day and time and the form of the offset; writing has one form.
-/

namespace TenantRelay

/-- A second may be the sixtieth of its minute. -/
structure Timestamp where
  day : Day
  hour : Nat
  minute : Nat
  second : Nat
  nanosecond : Nat
deriving DecidableEq

namespace Timestamp

inductive Fault where
  | outOfRange
  | impossible
  | invalid
  | tooShort
  | tooLong
deriving DecidableEq

def Fault.message : Fault → String
  | outOfRange => "input is out of range"
  | impossible => "no possible date and time matching input"
  | invalid => "input contains invalid characters"
  | tooShort => "premature end of input"
  | tooLong => "trailing input"

def digitsFrom (limit total : Nat) : Nat → List Char → Except Fault (Nat × List Char)
  | 0, cs => .ok (total, cs)
  | _ + 1, [] => .ok (total, [])
  | width + 1, c :: cs =>
    if c.isDigit then
      if total * 10 + (c.toNat - 48) < limit then
        digitsFrom limit (total * 10 + (c.toNat - 48)) width cs
      else .error .outOfRange
    else .ok (total, c :: cs)

def number (width : Nat) (cs : List Char) : Except Fault (Nat × List Char) :=
  match cs with
  | [] => .error .tooShort
  | c :: _ => if c.isDigit then digitsFrom 0x8000000000000000 0 width cs else .error .invalid

def field (low high : Nat) (cs : List Char) : Except Fault (Nat × List Char) := do
  let (n, rest) ← number 2 (Text.trimStartChars cs)
  if low ≤ n ∧ n ≤ high then return (n, rest) else throw .outOfRange

/-- A year without a sign has four digits at most. -/
def year (cs : List Char) : Except Fault (Int × List Char) := do
  let (n, rest) ← match Text.trimStartChars cs with
    | '-' :: rest => do
      let (n, rest) ← number rest.length rest
      pure (-(n : Int), rest)
    | '+' :: rest => do
      let (n, rest) ← number rest.length rest
      pure ((n : Int), rest)
    | rest => do
      let (n, rest) ← number 4 rest
      pure ((n : Int), rest)
  if -0x80000000 ≤ n ∧ n < 0x80000000 then return (n, rest) else throw .outOfRange

def mark (c : Char) (cs : List Char) : Except Fault (List Char) :=
  match Text.trimStartChars cs with
  | [] => .error .tooShort
  | d :: rest => if d = c then .ok rest else .error .invalid

/-- The digits of a fraction count from the left; those past the ninth are dropped. -/
def fraction (cs : List Char) : Except Fault (Nat × List Char) :=
  match cs with
  | '.' :: rest => do
    let (n, after) ← number 9 rest
    return (n * Nat.pow 10 (9 - (rest.length - after.length)), after.dropWhile Char.isDigit)
  | _ => .ok (0, cs)

def hasBytes (n : Nat) (cs : List Char) : Bool :=
  n ≤ cs.foldl (fun total c => total + c.utf8Size) 0

def offset (cs : List Char) : Except Fault (Int × List Char) :=
  match cs with
  | 'Z' :: rest => .ok (0, rest)
  | 'z' :: rest => .ok (0, rest)
  | [] => .error .tooShort
  | sign :: rest => do
    if sign != '+' && sign != '-' && sign.toNat != 0x2212 then throw .invalid
    if !hasBytes 2 rest then throw .tooShort
    match rest with
    | a :: b :: rest =>
      if !(a.isDigit && b.isDigit) then throw .invalid
      let hours := (a.toNat - 48) * 10 + (b.toNat - 48)
      let rest := rest.dropWhile fun c => c = ':' || Text.isBlank c
      if !hasBytes 2 rest then throw .tooShort
      match rest with
      | c :: d :: rest =>
        if !(c.isDigit && d.isDigit) then throw .invalid
        if '6' ≤ c then throw .outOfRange
        let seconds : Int := hours * 3600 + ((c.toNat - 48) * 10 + (d.toNat - 48)) * 60
        return (if sign = '+' then seconds else -seconds, rest)
      | _ => throw .invalid
    | _ => throw .invalid

def zone (cs : List Char) : Except Fault (Int × List Char) :=
  match cs with
  | a :: b :: c :: rest =>
    if a.toUpper = 'U' ∧ b.toUpper = 'T' ∧ c.toUpper = 'C' then .ok (0, rest) else offset cs
  | _ => offset cs

def shifted (day : Day) (hour minute : Nat) (ahead : Int) (second nanosecond : Nat) :
    Except Fault Timestamp :=
  let seconds : Int := hour * 3600 + minute * 60 + (min second 59 : Nat) - ahead
  let day := if seconds < 0 then day.previous else if 86400 ≤ seconds then day.next else day
  let ofDay := (seconds % 86400).toNat
  if day.valid then
    .ok ⟨day, ofDay / 3600, ofDay / 60 % 60, ofDay % 60 + (second - 59), nanosecond⟩
  else .error .impossible

def ofChars (cs : List Char) : Except Fault Timestamp := do
  let (year, cs) ← year cs
  let cs ← mark '-' cs
  let (month, cs) ← field 1 12 cs
  let cs ← mark '-' cs
  let (day, cs) ← field 1 31 cs
  let cs ← match cs with
    | [] => throw .tooShort
    | c :: rest => if c = 't' ∨ c = 'T' ∨ c = ' ' then pure rest else throw .invalid
  let (hour, cs) ← field 0 23 cs
  let cs ← mark ':' cs
  let (minute, cs) ← field 0 59 cs
  let cs ← mark ':' cs
  let (second, cs) ← field 0 60 cs
  let (nanosecond, cs) ← fraction cs
  let (ahead, cs) ← zone (Text.trimStartChars cs)
  if !(Text.trimStartChars cs).isEmpty then throw .tooLong
  let date : Day := ⟨year, month, day⟩
  if !date.valid || 86400 ≤ ahead.natAbs then throw .outOfRange
  shifted date hour minute ahead second nanosecond

def parse (s : String) : Except Fault Timestamp := ofChars s.toList

def padded (width n : Nat) : List Char :=
  let digits := Nat.toDigits 10 n
  List.replicate (width - digits.length) '0' ++ digits

/-- Years of other than four digits have a sign. -/
def yearChars (year : Int) : List Char :=
  if year < 0 then '-' :: padded 4 year.natAbs
  else if 9999 < year then '+' :: padded 4 year.natAbs
  else padded 4 year.natAbs

def fractionChars (nanosecond : Nat) : List Char :=
  if nanosecond == 0 then []
  else if nanosecond % 1000000 == 0 then '.' :: padded 3 (nanosecond / 1000000)
  else if nanosecond % 1000 == 0 then '.' :: padded 6 (nanosecond / 1000)
  else '.' :: padded 9 nanosecond

def chars (t : Timestamp) : List Char :=
  yearChars t.day.year ++ ['-'] ++ padded 2 t.day.month ++ ['-'] ++ padded 2 t.day.day ++ ['T'] ++
    padded 2 t.hour ++ [':'] ++ padded 2 t.minute ++ [':'] ++ padded 2 t.second ++
    fractionChars t.nanosecond ++ ['Z']

def render (t : Timestamp) : String := String.ofList t.chars

def decoder : Document.Decoder Timestamp
  | _, .str s => (parse s).mapError fun fault => .other fault.message
  | _, tree => .error (Document.mismatch tree "an RFC 3339 formatted date and time string")

end Timestamp
end TenantRelay
