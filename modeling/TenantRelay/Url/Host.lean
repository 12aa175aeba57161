import TenantRelay.Url.Percent

/-! Hosts in addresses: names, and numbers in their several spellings. -/

namespace TenantRelay.Url

inductive Fault where
  | relative
  | emptyHost
  | badName
  | badCharacter
  | badPort
  | badNumber
  | badLongNumber
deriving DecidableEq

def Fault.message : Fault → String
  | relative => "relative URL without a base"
  | emptyHost => "empty host"
  | badName => "invalid international domain name"
  | badCharacter => "invalid domain character"
  | badPort => "invalid port number"
  | badNumber => "invalid IPv4 address"
  | badLongNumber => "invalid IPv6 address"

def splitAt (separator : Char → Bool) : List Char → List (List Char)
  | [] => [[]]
  | c :: rest =>
    if separator c then [] :: splitAt separator rest
    else match splitAt separator rest with
      | [] => [[c]]
      | first :: others => (c :: first) :: others

def valueIn? (base : Nat) (cs : List Char) : Option Nat :=
  cs.foldl (fun total c => do
    let total ← total
    let digit ← Text.Hex.value c
    if digit < base then some (base * total + digit) else none) (some 0)

/-- A part of a number: decimal, octal after a zero, or hexadecimal after its mark. -/
def numberPart? : List Char → Option Nat
  | [] => none
  | '0' :: 'x' :: rest => valueIn? 16 rest
  | '0' :: 'X' :: rest => valueIn? 16 rest
  | '0' :: c :: rest => valueIn? 8 (c :: rest)
  | cs => valueIn? 10 cs

def dottedParts (name : List Char) : List (List Char) :=
  let parts := splitAt (· == '.') name
  if 1 < parts.length && parts.getLast? == some [] then parts.dropLast else parts

/-- Whether a name is meant as a number: its last part is one. -/
def isNumber (name : List Char) : Bool :=
  match (dottedParts name).getLast? with
  | none => false
  | some part => (part != [] && part.all Char.isDigit) ||
      ((part.take 2 == ['0', 'x'] || part.take 2 == ['0', 'X']) && (numberPart? part).isSome)

/-- Four bytes, of which the last part may stand for several. -/
def readNumber (name : List Char) : Except Fault (List Char) := do
  let parts := dottedParts name
  if 4 < parts.length then throw .badNumber
  let values ← (parts.mapM numberPart?).elim (throw .badNumber) pure
  let front := values.dropLast
  let last := values.getLast?.getD 0
  if front.any (255 < ·) || 1 <<< (8 * (5 - parts.length)) ≤ last then throw .badNumber
  let total := front.zipIdx.foldl (fun sum p => sum + p.1 <<< (8 * (3 - p.2))) last
  let bytes := [total / 16777216 % 256, total / 65536 % 256, total / 256 % 256, total % 256]
  return (String.intercalate "." (bytes.map toString)).toList

def isGroup (cs : List Char) : Bool :=
  0 < cs.length && cs.length ≤ 4 && cs.all fun c => (Text.Hex.value c).isSome

def groups? (cs : List Char) : Option (List Nat) :=
  -- The last group may be given as four decimal bytes.
  if cs.isEmpty then some []
  else
    let parts := splitAt (· == ':') cs
    let last := parts.getLast?.getD []
    let front := if last.contains '.' then parts.dropLast else parts
    let bytes := splitAt (· == '.') last
    let isByte (b : List Char) : Bool :=
      b != [] && b.all Char.isDigit && ((valueIn? 10 b).any (· < 256)) &&
        (b.length == 1 || b.head? != some '0')
    if front.all isGroup then
      let values := front.filterMap (valueIn? 16)
      if last.contains '.' then
        if bytes.length == 4 && bytes.all isByte then
          match bytes.filterMap (valueIn? 10) with
          | [a, b, c, d] => some (values ++ [256 * a + b, 256 * c + d])
          | _ => none
        else none
      else some values
    else none

def splitGap : List Char → Option (List Char × List Char)
  | ':' :: ':' :: rest => some ([], rest)
  | c :: rest => (splitGap rest).map fun p => (c :: p.1, p.2)
  | [] => none

def readGroups? (cs : List Char) : Option (List Nat) :=
  match splitGap cs with
  | none => (groups? cs).filter (·.length == 8)
  | some (front, back) => do
    let front ← groups? front
    let back ← groups? back
    if front.length + back.length < 8 then
      some (front ++ List.replicate (8 - front.length - back.length) 0 ++ back)
    else none

def leadingZeros (values : List Nat) : Nat := (values.takeWhile (· == 0)).length

def longestRun (values : List Nat) : Nat × Nat :=
  (List.range values.length).foldl (fun best start =>
    let run := leadingZeros (values.drop start)
    if best.2 < run then (start, run) else best) (0, 0)

def writeGroups (values : List Nat) : List Char :=
  let group (n : Nat) : String := String.ofList (Text.Hex.ofNat n)
  let line (part : List Nat) : String := String.intercalate ":" (part.map group)
  let (start, run) := longestRun values
  (if run < 2 then line values
  else line (values.take start) ++ "::" ++ line (values.drop (start + run))).toList

def forbidden : List Char :=
  [' ', '#', '/', ':', '<', '>', '?', '@', '[', '\\', ']', '^', '|', '%', '\x7f']

def readHost (cs : List Char) : Except Fault (List Char) := do
  match cs with
  | [] => throw .emptyHost
  | '[' :: rest =>
    if rest.getLast? == some ']' then
      match readGroups? rest.dropLast with
      | some values => return '[' :: writeGroups values ++ [']']
      | none => throw .badLongNumber
    else throw .badLongNumber
  | cs =>
    let name := (Text.Utf8.decodeLossy (unescape cs)).toList.map Char.toLower
    if name.isEmpty then throw .emptyHost
    if name.any fun c => !isPlain c || forbidden.contains c then throw .badName
    if isNumber name then readNumber name else return name

/-- The host of any other address stays as it is. -/
def readOpaqueHost (cs : List Char) : Except Fault (List Char) :=
  match cs with
  | '[' :: _ => readHost cs
  | cs =>
    if cs.any fun c => (forbidden.filter (· != '%')).contains c then .error .badCharacter
    else .ok (escape [] cs)

end TenantRelay.Url
