import TenantRelay.Document.Decode

/-!
The text form of values. Reading gives a tree for any bytes at all; a token is read
twice where being passed over and having a value are different things.
-/

namespace TenantRelay.Json.Reader

open Document

def isSpace (b : UInt8) : Bool := b == 0x20 || b == 0x0a || b == 0x0d || b == 0x09

def dropSpace (bytes : Bytes) : Bytes := bytes.dropWhile isSpace

def isDigit (b : UInt8) : Bool := 0x30 ≤ b && b ≤ 0x39

def digitOf (b : UInt8) : Nat := b.toNat - 0x30

def word : List Char → Bytes → Except SyntaxFault Bytes
  | [], bytes => .ok bytes
  | _ :: _, [] => .error .endInValue
  | c :: cs, b :: bytes =>
    if b.toNat == c.toNat then word cs bytes else .error .expectedLiteral

/-! Strings. -/

def hexOf (b : UInt8) : Option Nat := Text.Hex.value (Char.ofNat b.toNat)

def unit : Bytes → Except SyntaxFault (Nat × Bytes)
  | a :: b :: c :: d :: rest =>
    match hexOf a, hexOf b, hexOf c, hexOf d with
    | some a, some b, some c, some d => .ok (((a * 16 + b) * 16 + c) * 16 + d, rest)
    | _, _, _, _ => .error .invalidEscape
  | _ => .error .endInString

def isLeading (unit : Nat) : Bool := 0xd800 ≤ unit && unit ≤ 0xdbff

def isTrailing (unit : Nat) : Bool := 0xdc00 ≤ unit && unit ≤ 0xdfff

def codePoint (bytes : Bytes) : Except SyntaxFault (Char × Bytes) := do
  let (first, rest) ← unit bytes
  if isTrailing first then throw .loneSurrogate
  else if isLeading first then
    match rest with
    | [] => throw .endInString
    | 0x5c :: [] => throw .endInString
    | 0x5c :: 0x75 :: rest => do
      let (second, rest) ← unit rest
      if isTrailing second then
        return (Char.ofNat (0x10000 + (first - 0xd800) * 0x400 + (second - 0xdc00)), rest)
      else throw .loneSurrogate
    | _ => throw .unfinishedSurrogate
  else return (Char.ofNat first, rest)

def simpleEscape (b : UInt8) : Option UInt8 :=
  if b == 0x22 || b == 0x5c || b == 0x2f then some b
  else if b == 0x62 then some 0x08
  else if b == 0x66 then some 0x0c
  else if b == 0x6e then some 0x0a
  else if b == 0x72 then some 0x0d
  else if b == 0x74 then some 0x09
  else none

def finish (collected : List UInt8) : Except SyntaxFault String :=
  match Text.Utf8.decode? collected.reverse with
  | some s => .ok s
  | none => .error .invalidCodePoint

def stringFrom : Nat → Bytes → List UInt8 → Except SyntaxFault (String × Bytes)
  | 0, _, _ => .error .endInString
  | _ + 1, [], _ => .error .endInString
  | fuel + 1, b :: rest, collected =>
    if b == 0x22 then do
      let s ← finish collected
      return (s, rest)
    else if b == 0x5c then
      match rest with
      | [] => .error .endInString
      | e :: rest =>
        if e == 0x75 then do
          let (c, rest) ← codePoint rest
          stringFrom fuel rest ((Text.Utf8.encode (String.singleton c)).reverse ++ collected)
        else match simpleEscape e with
          | some plain => stringFrom fuel rest (plain :: collected)
          | none => .error .invalidEscape
    else if b < 0x20 then .error .controlCharacter
    else stringFrom fuel rest (b :: collected)

/-- Passing over a string takes no notice of what its bytes and escapes stand for. -/
def skipString : Nat → Bytes → Except SyntaxFault Bytes
  | 0, _ => .error .endInString
  | _ + 1, [] => .error .endInString
  | fuel + 1, b :: rest =>
    if b == 0x22 then .ok rest
    else if b == 0x5c then
      match rest with
      | [] => .error .endInString
      | e :: rest =>
        if e == 0x75 then do
          let (_, rest) ← unit rest
          skipString fuel rest
        else if (simpleEscape e).isSome then skipString fuel rest
        else .error .invalidEscape
    else if b < 0x20 then .error .controlCharacter
    else skipString fuel rest

/-- A token as a reader and as a passer-by find it. -/
structure Token (α : Type) where
  read : Except SyntaxFault (α × Bytes)
  skipped : Except SyntaxFault Bytes

def string (bytes : Bytes) : Token String :=
  { read := stringFrom (bytes.length + 1) bytes []
    skipped := skipString (bytes.length + 1) bytes }

/-! Numbers. -/

/-- `significand * 10 ^ power` by one multiplication or division by a power of ten
that a floating-point number can hold, after as many divisions as bring the power
into that range. -/
def scaled (negative : Bool) : Nat → Float → Int → Except SyntaxFault Float
  | 0, x, _ => .ok (if negative then -x else x)
  | steps + 1, x, power =>
    if power.natAbs ≤ 308 then
      let factor := Float.ofScientific 1 false power.natAbs
      if 0 ≤ power then
        let y := x * factor
        if y.isInf then .error .numberOutOfRange else .ok (if negative then -y else y)
      else .ok (let y := x / factor; if negative then -y else y)
    else if x == 0 then .ok (if negative then -x else x)
    else if 0 ≤ power then .error .numberOutOfRange
    else scaled negative steps (x / 1e308) (power + 308)

def floating (negative : Bool) (significand : Nat) (power : Int) :
    Except SyntaxFault Json.Number :=
  (scaled negative (power.natAbs / 308 + 2) (UInt64.ofNat significand).toFloat power).map .real

def wordLimit : Nat := 0x10000000000000000

def skipDigits (bytes : Bytes) : Bytes := bytes.dropWhile isDigit

def powerLimit : Int := 0x80000000

def powerDigits (sofar : Nat) : Bytes → Option Nat × Bytes
  | [] => (some sofar, [])
  | b :: rest =>
    if isDigit b then
      if sofar * 10 + digitOf b < 0x80000000 then powerDigits (sofar * 10 + digitOf b) rest
      else (none, skipDigits rest)
    else (some sofar, b :: rest)

def clampPower (power : Int) : Int := max (-powerLimit) (min (powerLimit - 1) power)

def exponentPart (negative : Bool) (significand : Nat) (power : Int) (bytes : Bytes) :
    Except SyntaxFault (Json.Number × Bytes) :=
  let (downward, bytes) := match bytes with
    | 0x2b :: rest => (false, rest)
    | 0x2d :: rest => (true, rest)
    | other => (false, other)
  match bytes with
  | [] => .error .endInValue
  | b :: _ =>
    if !isDigit b then .error .invalidNumber
    else match powerDigits 0 bytes with
      | (some shift, rest) =>
        let total := clampPower (if downward then power - shift else power + shift)
        (floating negative significand total).map fun n => (n, rest)
      | (none, rest) =>
        if significand != 0 && !downward then .error .numberOutOfRange
        else .ok (.real (if negative then -0.0 else 0.0), rest)

def isExponentMark (b : UInt8) : Bool := b == 0x65 || b == 0x45

def afterDigits (negative : Bool) (significand : Nat) (power : Int) (bytes : Bytes) :
    Except SyntaxFault (Json.Number × Bytes) :=
  match bytes with
  | b :: rest =>
    if isExponentMark b then exponentPart negative significand power rest
    else (floating negative significand power).map fun n => (n, b :: rest)
  | [] => (floating negative significand power).map fun n => (n, [])

def fractionDigits (negative : Bool) (significand : Nat) (power : Int) :
    Bytes → Except SyntaxFault (Json.Number × Bytes)
  -- Digits that 64 bits cannot hold are dropped.
  | [] => afterDigits negative significand power []
  | b :: rest =>
    if isDigit b then
      if significand * 10 + digitOf b < wordLimit then
        fractionDigits negative (significand * 10 + digitOf b) (power - 1) rest
      else afterDigits negative significand power (skipDigits rest)
    else afterDigits negative significand power (b :: rest)

def fraction (negative : Bool) (significand : Nat) (power : Int) (bytes : Bytes) :
    Except SyntaxFault (Json.Number × Bytes) :=
  match bytes with
  | [] => .error .endInValue
  | b :: _ =>
    if isDigit b then fractionDigits negative significand power bytes
    else .error .invalidNumber

/-- A whole number with more digits than 64 bits hold: each further one counts as a
power of ten. -/
def longWhole (negative : Bool) (significand : Nat) (power : Int) :
    Bytes → Except SyntaxFault (Json.Number × Bytes)
  | [] => (floating negative significand power).map fun n => (n, [])
  | b :: rest =>
    if isDigit b then longWhole negative significand (power + 1) rest
    else if b == 0x2e then fraction negative significand power rest
    else if isExponentMark b then exponentPart negative significand power rest
    else (floating negative significand power).map fun n => (n, b :: rest)

def wholeNumber (negative : Bool) (significand : Nat) : Json.Number :=
  if !negative then .nat (UInt64.ofNat significand)
  else if significand == 0 then .real (-0.0)
  else if significand ≤ 0x8000000000000000 then .neg (Int64.ofInt (-significand))
  else .real (-(UInt64.ofNat significand).toFloat)

def afterWhole (negative : Bool) (significand : Nat) (bytes : Bytes) :
    Except SyntaxFault (Json.Number × Bytes) :=
  match bytes with
  | b :: rest =>
    if b == 0x2e then fraction negative significand 0 rest
    else if isExponentMark b then exponentPart negative significand 0 rest
    else .ok (wholeNumber negative significand, b :: rest)
  | [] => .ok (wholeNumber negative significand, [])

def wholeDigits (negative : Bool) (significand : Nat) :
    Bytes → Except SyntaxFault (Json.Number × Bytes)
  | [] => afterWhole negative significand []
  | b :: rest =>
    if isDigit b then
      if significand * 10 + digitOf b < wordLimit then
        wholeDigits negative (significand * 10 + digitOf b) rest
      else longWhole negative significand 1 rest
    else afterWhole negative significand (b :: rest)

def unsigned (negative : Bool) (bytes : Bytes) : Except SyntaxFault (Json.Number × Bytes) :=
  -- A zero in front stands alone.
  match bytes with
  | [] => .error .endInValue
  | 0x30 :: rest => match rest with
    | b :: _ => if isDigit b then .error .invalidNumber else afterWhole negative 0 rest
    | [] => afterWhole negative 0 []
  | b :: _ => if isDigit b then wholeDigits negative 0 bytes else .error .invalidNumber

def someDigits (bytes : Bytes) : Except SyntaxFault Bytes :=
  match bytes with
  | b :: rest => if isDigit b then .ok (skipDigits rest) else .error .invalidNumber
  | [] => .error .invalidNumber

def skipExponent (bytes : Bytes) : Except SyntaxFault Bytes :=
  match bytes with
  | b :: rest =>
    if isExponentMark b then
      match rest with
      | 0x2b :: digits => someDigits digits
      | 0x2d :: digits => someDigits digits
      | digits => someDigits digits
    else .ok bytes
  | [] => .ok []

def skipNumber (bytes : Bytes) : Except SyntaxFault Bytes := do
  -- Passing over a number takes no notice of its size.
  let rest ← match bytes with
    | 0x30 :: rest => match rest with
      | b :: _ => if isDigit b then throw .invalidNumber else pure rest
      | [] => pure []
    | _ => someDigits bytes
  match rest with
  | 0x2e :: fraction => do
    let rest ← someDigits fraction
    skipExponent rest
  | _ => skipExponent rest

def number (negative : Bool) (bytes : Bytes) : Token Json.Number :=
  { read := unsigned negative bytes, skipped := skipNumber bytes }

/-! Values. Where a text cannot be read on, nothing is left of it. -/

def Token.tree {α : Type} (token : Token α) (make : α → Tree) : Tree × Option Bytes :=
  match token.read, token.skipped with
  | .ok (a, rest), _ => (make a, some rest)
  | .error fault, .ok rest => (.flawed fault, some rest)
  | .error fault, .error skipped => (.failed fault skipped, none)

def stop (fault : SyntaxFault) : Tree × Option Bytes := (.failed fault fault, none)

def literal (rest : List Char) (tree : Tree) (bytes : Bytes) : Tree × Option Bytes :=
  match word rest bytes with
  | .ok bytes => (tree, some bytes)
  | .error fault => stop fault

structure Inside (α : Type) where
  parts : List α
  tail : Option Fault
  rest : Option Bytes

def Inside.fault {α : Type} (fault : Fault) : Inside α := ⟨[], some fault, none⟩

def Inside.cons {α : Type} (part : α) (inside : Inside α) : Inside α :=
  { inside with parts := part :: inside.parts }

mutual

def value : Nat → Bytes → Tree × Option Bytes
  | 0, _ => stop .endInValue
  | fuel + 1, bytes =>
    match dropSpace bytes with
    | [] => stop .endInValue
    | b :: rest =>
      if b == 0x6e then literal ['u', 'l', 'l'] .null rest
      else if b == 0x74 then literal ['r', 'u', 'e'] (.bool true) rest
      else if b == 0x66 then literal ['a', 'l', 's', 'e'] (.bool false) rest
      else if b == 0x22 then (string rest).tree .str
      else if b == 0x2d then (number true rest).tree .num
      else if isDigit b then (number false (b :: rest)).tree .num
      else if b == 0x5b then
        let inside := items fuel true rest
        (.arr inside.parts inside.tail, inside.rest)
      else if b == 0x7b then
        let inside := members fuel true rest
        (.obj inside.parts inside.tail, inside.rest)
      else stop .expectedValue

def items : Nat → Bool → Bytes → Inside Tree
  | 0, _, _ => .fault (.same .endInList)
  | fuel + 1, first, bytes =>
    match dropSpace bytes with
    | [] => .fault (.same .endInList)
    | b :: rest =>
      if b == 0x5d then ⟨[], none, some rest⟩
      else if b == 0x2c then
        if first then
          match dropSpace rest with
          | 0x5d :: _ => .fault ⟨.expectedValue, .expectedValue, .trailingComma⟩
          | _ => .fault ⟨.expectedValue, .expectedValue, .trailingCharacters⟩
        else match dropSpace rest with
          | [] => .fault ⟨.endInValue, .endInValue, .trailingCharacters⟩
          | 0x5d :: _ => .fault ⟨.trailingComma, .expectedValue, .trailingComma⟩
          | rest => item fuel rest
      else if first then item fuel (b :: rest)
      else .fault ⟨.expectedListEnd, .expectedListEnd, .trailingCharacters⟩

def item : Nat → Bytes → Inside Tree
  | 0, _ => .fault (.same .endInList)
  | fuel + 1, bytes =>
    match value fuel bytes with
    | (tree, none) => ⟨[tree], none, none⟩
    | (tree, some rest) => (items fuel false rest).cons tree

def members : Nat → Bool → Bytes → Inside (Key × Tree)
  | 0, _, _ => .fault (.same .endInObject)
  | fuel + 1, first, bytes =>
    match dropSpace bytes with
    | [] => .fault (.same .endInObject)
    | b :: rest =>
      if b == 0x7d then ⟨[], none, some rest⟩
      else if first then
        if b == 0x22 then member fuel rest else .fault (.same .keyNotText)
      else if b == 0x2c then
        match dropSpace rest with
        | [] => .fault ⟨.endInValue, .endInObject, .endInValue⟩
        | 0x22 :: rest => member fuel rest
        | 0x7d :: _ => .fault ⟨.trailingComma, .keyNotText, .trailingComma⟩
        | _ => .fault (.same .keyNotText)
      else .fault (.same .expectedObjectEnd)

def member : Nat → Bytes → Inside (Key × Tree)
  | 0, _ => .fault (.same .endInObject)
  | fuel + 1, bytes =>
    let token := string bytes
    match token.read, token.skipped with
    | .error fault, .error skipped => .fault ⟨fault, skipped, fault⟩
    | .ok (name, rest), _ => binding fuel (.ok name) rest
    | .error fault, .ok rest => binding fuel (.error fault) rest

def binding : Nat → Key → Bytes → Inside (Key × Tree)
  | 0, _, _ => .fault (.same .endInObject)
  | fuel + 1, key, bytes =>
    match dropSpace bytes with
    | [] => ⟨[(key, .failed .endInObject .endInObject)], none, none⟩
    | 0x3a :: rest =>
      match value fuel rest with
      | (tree, none) => ⟨[(key, tree)], none, none⟩
      | (tree, some rest) => (members fuel false rest).cons (key, tree)
    | _ => ⟨[(key, .failed .expectedColon .expectedColon)], none, none⟩

end

end Reader

def readTree (bytes : Bytes) : Document.Tree × Bool :=
  match Reader.value (4 * bytes.length + 4) bytes with
  | (tree, rest) => (tree, !(Reader.dropSpace (rest.getD [])).isEmpty)

def parse {α : Type} (decoder : Document.Decoder α) (bytes : Bytes) :
    Except Document.DecodeError α := do
  let (tree, more) := readTree bytes
  let value ← decoder Document.textDepth tree
  if more then throw (.malformed .trailingCharacters)
  return value

def convert {α : Type} (decoder : Document.Decoder α) (value : Json) :
    Except Document.DecodeError α :=
  decoder none (Document.Tree.ofJson value)

end TenantRelay.Json
