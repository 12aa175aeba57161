import TenantRelay.Document.Decode
import TenantRelay.Document.Toml.Table
import TenantRelay.Text.Hex
import TenantRelay.Time.Calendar

/-! Reading a TOML text statement by statement. -/

namespace TenantRelay.Document.Toml

abbrev Read := StateT (List Char) (Except Fault)

namespace Read

def isSpace (c : Char) : Bool := c == ' ' || c == '\t'

def isPrintable (c : Char) : Bool := c == '\t' || (0x20 ≤ c.val && c.val != 0x7f)

def skipSpaces : Read Unit := modify fun cs => cs.dropWhile isSpace

def take (text : List Char) : Read Bool := do
  let cs ← get
  if text.isPrefixOf cs then
    set (cs.drop text.length)
    return true
  else return false

def expect (c : Char) (fault : Fault) : Read Unit := do
  if !(← take [c]) then throw fault

def takeWhile (holds : Char → Bool) : Read (List Char) := do
  let cs ← get
  set (cs.dropWhile holds)
  return cs.takeWhile holds

def comment : Read Unit := do
  if ← take ['#'] then
    let text ← takeWhile fun c => c != '\n' && c != '\r'
    if !text.all isPrintable then throw .badCharacter

def newline : Read Bool := do
  if ← take ['\n'] then return true else take ['\r', '\n']

def skipLines : Nat → Read Unit
  | 0 => return ()
  | budget + 1 => do
    skipSpaces
    comment
    if ← newline then skipLines budget

/-! Texts. -/

def shortEscapes : List (Char × Nat) :=
  [('b', 8), ('t', 9), ('n', 10), ('f', 12), ('r', 13), ('e', 27), ('"', 34), ('\\', 92)]

def longEscapes : List (Char × Nat) := [('x', 2), ('u', 4), ('U', 8)]

def hexNumber? (cs : List Char) : Option Nat :=
  cs.foldl (fun total c => do return 16 * (← total) + (← Text.Hex.value c)) (some 0)

def escape : Read Char := do
  match ← get with
  | [] => throw .badText
  | c :: rest =>
    match shortEscapes.lookup c, longEscapes.lookup c with
    | some code, _ =>
      set rest
      return Char.ofNat code
    | none, some width =>
      let digits := rest.take width
      match hexNumber? digits with
      | some code =>
        if digits.length == width && code.isValidChar then
          set (rest.drop width)
          return Char.ofNat code
        else throw .badText
      | none => throw .badText
    | none, none => throw .badText

def shortText (quote : Char) : Nat → List Char → Read String
  | 0, _ => throw .badText
  | budget + 1, sofar => do
    match ← get with
    | [] => throw .badText
    | c :: rest =>
      set rest
      if c == quote then return String.ofList sofar.reverse
      else if c == '\\' && quote == '"' then shortText quote budget ((← escape) :: sofar)
      else if isPrintable c then shortText quote budget (c :: sofar)
      else throw .badText

/-- The end of a long text: three quotes, of which up to two more may stand before. -/
def longEnd? (quote : Char) (cs : List Char) : Option Nat :=
  let quotes := (cs.takeWhile (· == quote)).length
  if quotes < 3 then none else some (min quotes 5)

def skipJoin : Read Bool := do
  let cs ← get
  match cs.dropWhile isSpace with
  | '\n' :: rest | '\r' :: '\n' :: rest =>
    set (rest.dropWhile fun c => isSpace c || c == '\n' || c == '\r')
    return true
  | _ => return false

def longText (quote : Char) : Nat → List Char → Read String
  | 0, _ => throw .badText
  | budget + 1, sofar => do
    let cs ← get
    match longEnd? quote cs, cs with
    | some quotes, _ =>
      set (cs.drop quotes)
      return String.ofList (List.replicate (quotes - 3) quote ++ sofar).reverse
    | none, [] => throw .badText
    | none, '\r' :: '\n' :: rest =>
      set rest
      longText quote budget ('\n' :: sofar)
    | none, c :: rest =>
      set rest
      if c == '\\' && quote == '"' then
        if ← skipJoin then longText quote budget sofar
        else longText quote budget ((← escape) :: sofar)
      else if isPrintable c || c == '\n' then longText quote budget (c :: sofar)
      else throw .badText

def quoted (quote : Char) : Read String := do
  let budget := (← get).length + 1
  if ← take [quote, quote, quote] then
    let _ ← newline
    longText quote budget []
  else
    expect quote .badText
    shortText quote budget []

/-! Keys. -/

def isBare (c : Char) : Bool := c.isAlphanum || c == '_' || c == '-'

def keyPart : Read String := do
  match ← get with
  | '"' :: rest =>
    set rest
    shortText '"' (rest.length + 1) []
  | '\'' :: rest =>
    set rest
    shortText '\'' (rest.length + 1) []
  | _ =>
    let name ← takeWhile isBare
    if name.isEmpty then throw .badKey
    return String.ofList name

def key : Nat → Read (List String)
  | 0 => throw .badKey
  | budget + 1 => do
    skipSpaces
    let part ← keyPart
    skipSpaces
    if ← take ['.'] then return part :: (← key budget) else return [part]

/-! Plain values. -/

def plainDigits? (isDigit : Char → Bool) (cs : List Char) : Option (List Char) :=
  -- Digits with lines between them, none at either end or next to another.
  let rec go : Bool → List Char → Option (List Char)
    | wasDigit, [] => if wasDigit then some [] else none
    | wasDigit, c :: rest =>
      if isDigit c then (go true rest).map (c :: ·)
      else if c == '_' && wasDigit then go false rest
      else none
  go false cs

def numberIn? (base : Nat) (cs : List Char) : Option Nat := do
  let isDigit (c : Char) : Bool := (Text.Hex.value c).any (· < base)
  let digits ← plainDigits? isDigit cs
  digits.foldl (fun total c => do return base * (← total) + (← Text.Hex.value c)) (some 0)

def decimal? (cs : List Char) : Option Nat :=
  match cs with
  | '0' :: _ :: _ => none
  | cs => numberIn? 10 cs

def wholeTree (negative : Bool) (n : Nat) : Option Tree :=
  if negative && n != 0 then
    if n ≤ 0x8000000000000000 then some (.num (.neg (Int64.ofInt (-n)))) else none
  else if n < 0x10000000000000000 then some (.num (.nat (UInt64.ofNat n)))
  else none

def isWhole? (cs : List Char) : Option Tree :=
  match cs with
  | '0' :: 'x' :: rest => (numberIn? 16 rest).bind (wholeTree false)
  | '0' :: 'o' :: rest => (numberIn? 8 rest).bind (wholeTree false)
  | '0' :: 'b' :: rest => (numberIn? 2 rest).bind (wholeTree false)
  | '-' :: rest => (decimal? rest).bind (wholeTree true)
  | '+' :: rest => (decimal? rest).bind (wholeTree false)
  | cs => (decimal? cs).bind (wholeTree false)

def unsigned (cs : List Char) : List Char :=
  match cs with
  | '-' :: rest => rest
  | '+' :: rest => rest
  | cs => cs

/-- Whether a text is a number that is not whole. What it is worth plays no part. -/
def isReal (cs : List Char) : Bool :=
  let cs := unsigned cs
  let isExponent (c : Char) : Bool := c == 'e' || c == 'E'
  let mantissa := cs.takeWhile (!isExponent ·)
  let exponent := cs.dropWhile (!isExponent ·)
  let whole := mantissa.takeWhile (· != '.')
  let fraction := mantissa.dropWhile (· != '.')
  let isDigits (part : List Char) : Bool := (plainDigits? Char.isDigit part).isSome
  cs == "inf".toList || cs == "nan".toList ||
    ((decimal? whole).isSome && (fraction != [] || exponent != []) &&
      (fraction == [] || isDigits (fraction.drop 1)) &&
      (exponent == [] || isDigits (unsigned (exponent.drop 1))))

def twoDigits? (cs : List Char) : Option (Nat × List Char) :=
  match cs with
  | a :: b :: rest =>
    if a.isDigit && b.isDigit then some (10 * (a.toNat - 48) + (b.toNat - 48), rest) else none
  | _ => none

def isOffset (cs : List Char) : Bool :=
  match cs with
  | [] => true
  | ['Z'] => true
  | ['z'] => true
  | sign :: rest =>
    match twoDigits? rest with
    | some (hours, ':' :: rest) =>
      match twoDigits? rest with
      | some (minutes, []) => (sign == '+' || sign == '-') && hours ≤ 23 && minutes ≤ 59
      | _ => false
    | _ => false

def isTime (withOffset : Bool) (cs : List Char) : Bool :=
  let ending (cs : List Char) : Bool := if withOffset then isOffset cs else cs == []
  match twoDigits? cs with
  | some (hours, ':' :: rest) =>
    match twoDigits? rest with
    | some (minutes, ':' :: rest) =>
      match twoDigits? rest with
      | some (seconds, '.' :: rest) =>
        hours ≤ 23 && minutes ≤ 59 && seconds ≤ 60 && rest.head?.any Char.isDigit &&
          ending (rest.dropWhile Char.isDigit)
      | some (seconds, rest) => hours ≤ 23 && minutes ≤ 59 && seconds ≤ 60 && ending rest
      | none => false
    | some (minutes, rest) => hours ≤ 23 && minutes ≤ 59 && ending rest
    | none => false
  | _ => false

def afterDate? (cs : List Char) : Option (List Char) := do
  let (century, rest) ← twoDigits? cs
  let (years, rest) ← twoDigits? rest
  let (month, rest) ← if rest.head? == some '-' then twoDigits? (rest.drop 1) else none
  let (day, rest) ← if rest.head? == some '-' then twoDigits? (rest.drop 1) else none
  if Day.valid ⟨100 * century + years, month, day⟩ then some rest else none

def isMoment (cs : List Char) : Bool :=
  match afterDate? cs with
  | some [] => true
  | some (c :: rest) => (c == 'T' || c == 't' || c == ' ') && isTime true rest
  | none => isTime false cs

def momentTree (cs : List Char) : Tree :=
  -- A moment stands for an object that holds its text.
  .obj [(.ok "$__toml_private_datetime", .str (String.ofList cs))] none

def isWord (c : Char) : Bool := c.isAlphanum || ['_', '+', '-', '.', ':'].contains c

def plain : Read Tree := do
  -- A space may divide a date from a time.
  let word ← takeWhile isWord
  let cs ← get
  let more := (cs.drop 1).takeWhile isWord
  if (afterDate? word) == some [] && cs.head? == some ' ' && (twoDigits? more).isSome then
    set (cs.drop (more.length + 1))
    let all := word ++ ' ' :: more
    if isMoment all then return momentTree all else throw .badValue
  else if word == "true".toList then return .bool true
  else if word == "false".toList then return .bool false
  else match isWhole? word with
    | some tree => return tree
    | none =>
      if isReal word then return .num (.real 0)
      else if isMoment word then return momentTree word
      else throw .badValue

/-! Values. -/

mutual

def value : Nat → Read Tree
  | 0 => throw .badValue
  | budget + 1 => do
    match ← get with
    | '"' :: _ => return .str (← quoted '"')
    | '\'' :: _ => return .str (← quoted '\'')
    | '[' :: rest =>
      set rest
      return .arr (← items budget) none
    | '\x7b' :: rest =>
      set rest
      return (Node.table .header (← pairs [] budget)).toTree
    | _ => plain

def items : Nat → Read (List Tree)
  | 0 => throw .badValue
  | budget + 1 => do
    skipLines ((← get).length + 1)
    if ← take [']'] then return []
    let item ← value budget
    skipLines ((← get).length + 1)
    if ← take [','] then return item :: (← items budget)
    expect ']' .badValue
    return [item]

def pairs (sofar : Members) : Nat → Read Members
  | 0 => throw .badValue
  | budget + 1 => do
    skipLines ((← get).length + 1)
    if ← take ['\x7d'] then return sofar
    let path ← key ((← get).length + 1)
    expect '=' .badKey
    skipSpaces
    let tree ← value budget
    let members ← Node.insert tree path sofar
    skipLines ((← get).length + 1)
    if ← take [','] then pairs members budget
    else
      expect '\x7d' .badValue
      return members

end

/-! Statements. -/

/-- All that was said, and the table that is spoken of. -/
structure Draft where
  root : Members := []
  place : List String := []

def header (draft : Draft) (isList : Bool) : Read Draft := do
  let path ← key ((← get).length + 1)
  expect ']' .badKey
  if isList then expect ']' .badKey
  let last := path.getLast?.getD ""
  let change := if isList then Node.openList last else Node.openTable last
  return { root := ← Node.within change path.dropLast draft.root, place := path }

def assignment (draft : Draft) : Read Draft := do
  let path ← key ((← get).length + 1)
  expect '=' .badKey
  skipSpaces
  let tree ← value (2 * (← get).length + 2)
  return { draft with root := ← Node.within (Node.insert tree path) draft.place draft.root }

def statement (draft : Draft) : Read Draft := do
  match ← get with
  | '[' :: '[' :: rest =>
    set rest
    header draft true
  | '[' :: rest =>
    set rest
    header draft false
  | [] => return draft
  | c :: _ => if c == '#' || c == '\n' || c == '\r' then return draft else assignment draft

def statements : Nat → Draft → Read Members
  | 0, draft => return draft.root
  | budget + 1, draft => do
    skipSpaces
    let draft ← statement draft
    skipSpaces
    comment
    if (← get).isEmpty then return draft.root
    if !(← newline) then throw .badEnd
    statements budget draft

end Read

def readTree (text : String) : Except Fault Tree := do
  let cs := match text.toList with
    | c :: rest => if c.val == 0xfeff then rest else c :: rest
    | [] => []
  let (members, _) ← (Read.statements (cs.length + 1) {}).run cs
  return .obj (Node.membersTree members) none

inductive ReadError where
  | malformed (fault : Fault)
  | unfit (error : DecodeError)

def ReadError.message : ReadError → String
  | malformed fault => fault.message
  | unfit error => error.message

def parse {α : Type} (decoder : Decoder α) (text : String) : Except ReadError α :=
  match readTree text with
  | .error fault => .error (.malformed fault)
  | .ok tree => (decoder none tree).mapError .unfit

end TenantRelay.Document.Toml
