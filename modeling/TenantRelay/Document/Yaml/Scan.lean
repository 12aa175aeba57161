import TenantRelay.Document.Yaml.Token
import TenantRelay.Text.Hex

/-!
Cutting a YAML text into tokens. Whether a scalar is a key shows only at the colon
after it, so the place of each scalar that may turn out to be one is remembered, and
the marks that belong in front of it are put there later.
-/

namespace TenantRelay.Document.Yaml

/-- A token that is a key if a colon follows on its line. -/
structure Candidate where
  place : Nat
  line : Nat
  column : Nat
  offset : Nat
  required : Bool

structure Scanner where
  rest : List Char
  line : Nat := 0
  column : Nat := 0
  offset : Nat := 0
  /-- The columns of the blocks that are open, the innermost first. -/
  indents : List Nat := []
  candidates : List (Option Candidate) := [none]
  keyAllowed : Bool := true
  tokens : Array Token := #[]

abbrev Scan := StateT Scanner (Except Fault)

def isBreak (c : Char) : Bool := c == '\n' || c.val == 0x2028 || c.val == 0x2029

def isSpace (c : Char) : Bool := c == ' ' || c == '\t'

def atGap (cs : List Char) : Bool :=
  match cs with
  | [] => true
  | c :: _ => isSpace c || isBreak c

def isFlowMark (c : Char) : Bool := [',', '[', ']', '\x7b', '\x7d'].contains c

def atDocumentMark (cs : List Char) : Bool :=
  (cs.take 3 == ['-', '-', '-'] || cs.take 3 == ['.', '.', '.']) && atGap (cs.drop 3)

namespace Scanner

def inFlow (s : Scanner) : Bool := 1 < s.candidates.length

def least (s : Scanner) : Nat :=
  match s.indents with
  | [] => 0
  | column :: _ => column + 1

def isOutside (s : Scanner) (column : Nat) : Bool :=
  match s.indents with
  | [] => true
  | inner :: _ => inner < column

def step (s : Scanner) : Scanner :=
  match s.rest with
  | [] => s
  | c :: rest =>
    if isBreak c then { s with rest, line := s.line + 1, column := 0, offset := s.offset + 1 }
    else { s with rest, column := s.column + 1, offset := s.offset + 1 }

end Scanner

namespace Scan

def advance : Scan Unit := modify Scanner.step

def advanceBy : Nat → Scan Unit
  | 0 => return ()
  | n + 1 => do
    advance
    advanceBy n

def add (token : Token) : Scan Unit := modify fun s => { s with tokens := s.tokens.push token }

def insertAt (place : Nat) (token : Token) : Scan Unit := modify fun s =>
  { s with tokens := s.tokens.extract 0 place ++ #[token] ++ s.tokens.extract place s.tokens.size }

def allowKey (allowed : Bool) : Scan Unit := modify fun s => { s with keyAllowed := allowed }

/-! Candidates for keys. -/

def dropCandidate : Scan Unit := modify fun s =>
  { s with candidates := none :: s.candidates.drop 1 }

def candidate : Scan (Option Candidate) := return (← get).candidates.headD none

def forgetCandidate : Scan Unit := do
  match ← candidate with
  | some c => if c.required then throw .lostKey else dropCandidate
  | none => return ()

def noteCandidate : Scan Unit := do
  if (← get).keyAllowed then
    forgetCandidate
    modify fun s =>
      let required := !s.inFlow && s.indents.head? == some s.column
      let c : Candidate := ⟨s.tokens.size, s.line, s.column, s.offset, required⟩
      { s with candidates := some c :: s.candidates.drop 1 }

/-- A key is on one line and not too long. -/
def dropStale : Scan Unit := do
  let s ← get
  let stale (c : Candidate) : Bool := c.line < s.line || c.offset + 1024 < s.offset
  if s.candidates.any fun c => c.any fun c => stale c && c.required then throw .lostKey
  set { s with candidates := s.candidates.map (Option.filter (!stale ·)) }

/-! Blocks. -/

def openBlock (column : Nat) (place : Option Nat) (start : Token) : Scan Unit := do
  let s ← get
  if !s.inFlow && s.isOutside column then
    set { s with indents := column :: s.indents }
    insertAt (place.getD s.tokens.size) start

def closeBlocks (keep : Nat → Bool) : List Nat → Scan Unit
  | [] => return ()
  | column :: outer =>
    if keep column then return ()
    else do
      add .blockEnd
      modify fun s => { s with indents := outer }
      closeBlocks keep outer

def closeTo (column : Nat) : Scan Unit := do
  let s ← get
  if !s.inFlow then closeBlocks (· ≤ column) s.indents

def closeAll : Scan Unit := do
  let s ← get
  if !s.inFlow then closeBlocks (fun _ => false) s.indents

/-! Scalars over several lines. -/

/-- What has been read of a scalar, backwards, and the gap that follows it. -/
structure Folding where
  text : List Char := []
  spaces : List Char := []
  broken : Bool := false
  firstBreak : List Char := []
  laterBreaks : List Char := []

namespace Folding

def space (f : Folding) (c : Char) : Folding :=
  if f.broken then f else { f with spaces := c :: f.spaces }

def lineEnd (f : Folding) (c : Char) : Folding :=
  if f.broken then { f with laterBreaks := c :: f.laterBreaks }
  else { f with spaces := [], broken := true, firstBreak := [c] }

/-- One line end in a gap counts as a space, and of several the first does not
count. -/
def joined (f : Folding) : List Char :=
  if f.broken then
    if f.firstBreak == ['\n'] then
      if f.laterBreaks.isEmpty then ' ' :: f.text else f.laterBreaks ++ f.text
    else f.laterBreaks ++ f.firstBreak ++ f.text
  else f.spaces ++ f.text

def fold (f : Folding) : Folding := { text := f.joined }

def push (f : Folding) (c : Char) : Folding := { text := c :: f.joined }

end Folding

def gap (strictTabs : Option Nat) : Nat → Folding → Scan Folding
  | 0, f => return f
  | budget + 1, f => do
    let s ← get
    match s.rest with
    | [] => return f
    | c :: _ =>
      if isSpace c then
        if f.broken && c == '\t' && strictTabs.any (s.column < ·) then throw .badScalar
        advance
        gap strictTabs budget (f.space c)
      else if isBreak c then
        advance
        gap strictTabs budget (f.lineEnd c)
      else return f

def plainWord : Nat → Folding → Scan Folding
  | 0, f => return f
  | budget + 1, f => do
    let s ← get
    match s.rest with
    | [] => return f
    | c :: rest =>
      if isSpace c || isBreak c then return f
      if s.inFlow && c == ':' && rest.head?.any fun d => isFlowMark d || d == '?' then
        throw .badScalar
      if (c == ':' && atGap rest) || (s.inFlow && isFlowMark c) then return f
      advance
      plainWord budget (f.push c)

def plainWords (indent : Nat) : Nat → Folding → Scan Folding
  | 0, f => return f
  | budget + 1, f => do
    let s ← get
    if (s.column == 0 && atDocumentMark s.rest) || s.rest.head? == some '#' then return f
    let f ← plainWord (s.rest.length + 1) f
    let s ← get
    if s.rest.isEmpty || !atGap s.rest then return f
    let f ← gap (some indent) (s.rest.length + 1) f
    let s ← get
    if !s.inFlow && s.column < indent then return f
    plainWords indent budget f

def plainScalar : Scan Unit := do
  -- Behind one that ends with a line a key may come.
  noteCandidate
  allowKey false
  let s ← get
  let f ← plainWords s.least (s.rest.length + 1) {}
  if f.broken then allowKey true
  add (.scalar f.text.reverse true)

def escapes : List (Char × Nat) :=
  [('0', 0), ('a', 7), ('b', 8), ('t', 9), ('\t', 9), ('n', 10), ('v', 11), ('f', 12), ('r', 13),
   ('e', 27), (' ', 32), ('"', 34), ('/', 47), ('\\', 92), ('N', 0x85), ('_', 0xa0),
   ('L', 0x2028), ('P', 0x2029)]

def escapeWidths : List (Char × Nat) := [('x', 2), ('u', 4), ('U', 8)]

def hexNumber? (cs : List Char) : Option Nat :=
  cs.foldl (fun total c => do return 16 * (← total) + (← Text.Hex.value c)) (some 0)

def escape? : List Char → Option (Char × Nat)
  | [] => none
  | c :: rest =>
    match escapes.lookup c, escapeWidths.lookup c with
    | some code, _ => some (Char.ofNat code, 1)
    | none, some width => do
      let digits := rest.take width
      if digits.length < width then none
      let code ← hexNumber? digits
      if code.isValidChar then some (Char.ofNat code, width + 1) else none
    | none, none => none

def quotedWord (quote : Char) : Nat → Folding → Scan (Folding × Bool)
  | 0, f => return (f, false)
  | budget + 1, f => do
    match (← get).rest with
    | [] => throw .badScalar
    | c :: rest =>
      if c == quote then
        if quote == '\'' && rest.head? == some quote then
          advanceBy 2
          quotedWord quote budget (f.push quote)
        else
          advance
          return (f, true)
      else if isSpace c || isBreak c then return (f, false)
      else if quote == '"' && c == '\\' then
        if rest.head?.any isBreak then
          advanceBy 2
          return ({ f with broken := true }, false)
        match escape? rest with
        | none => throw .badScalar
        | some (value, width) =>
          advanceBy (width + 1)
          quotedWord quote budget (f.push value)
      else
        advance
        quotedWord quote budget (f.push c)

def quotedWords (quote : Char) : Nat → Folding → Scan (List Char)
  | 0, _ => throw .badScalar
  | budget + 1, f => do
    let s ← get
    if s.column == 0 && atDocumentMark s.rest then throw .badScalar
    let (f, ended) ← quotedWord quote (s.rest.length + 1) f
    if ended then return f.text.reverse
    let s ← get
    if s.rest.isEmpty then throw .badScalar
    let f ← gap none (s.rest.length + 1) f
    quotedWords quote budget f.fold

def quotedScalar (quote : Char) : Scan Unit := do
  noteCandidate
  allowKey false
  advance
  let text ← quotedWords quote ((← get).rest.length + 2) {}
  add (.scalar text false)

/-! Scalars that are marked as blocks. -/

inductive Ending where
  | strip
  | clip
  | keep
deriving DecidableEq

def ending? : Char → Option Ending
  | '-' => some .strip
  | '+' => some .keep
  | _ => none

def depth? (c : Char) : Option Nat := if c.isDigit then some (c.toNat - 48) else none

def blockHeader (cs : List Char) : Ending × Option Nat × Nat :=
  match cs with
  | a :: b :: _ =>
    match ending? a, depth? a, ending? b, depth? b with
    | some e, _, _, some n => (e, some n, 2)
    | some e, _, _, none => (e, none, 1)
    | none, some n, some e, _ => (e, some n, 2)
    | none, some n, none, _ => (.clip, some n, 1)
    | none, none, _, _ => (.clip, none, 0)
  | [a] =>
    match ending? a, depth? a with
    | some e, _ => (e, none, 1)
    | none, some n => (.clip, some n, 1)
    | none, none => (.clip, none, 0)
  | [] => (.clip, none, 0)

/-- Skips empty lines and the indentation of the next line. Gives the line ends,
backwards, and the widest indentation met. -/
def emptyLines (indent : Option Nat) : Nat → List Char → Nat → Scan (List Char × Nat)
  | 0, breaks, widest => return (breaks, widest)
  | budget + 1, breaks, widest => do
    let s ← get
    let within : Bool := indent.all (s.column < ·)
    match s.rest with
    | [] => return (breaks, max widest s.column)
    | c :: _ =>
      if c == ' ' && within then
        advance
        emptyLines indent budget breaks widest
      else if c == '\t' && within then throw .badScalar
      else if isBreak c then
        advance
        emptyLines indent budget (c :: breaks) (max widest s.column)
      else return (breaks, max widest s.column)

def blockLines (literal : Bool) (indent : Nat) (text lead breaks : List Char) (wasBlank : Bool) :
    Nat → Scan (List Char × List Char × List Char)
  | 0 => return (text, lead, breaks)
  | budget + 1 => do
    let s ← get
    if s.column != indent || s.rest.isEmpty then return (text, lead, breaks)
    let isBlank := s.rest.head?.any isSpace
    let folds := !literal && lead == ['\n'] && !wasBlank && !isBlank
    let text := if folds then (if breaks.isEmpty then ' ' :: text else text) else lead ++ text
    let text := breaks ++ text
    let line := s.rest.takeWhile (!isBreak ·)
    advanceBy line.length
    let lead := ((← get).rest.take 1)
    advance
    let (breaks, _) ← emptyLines (some indent) (s.rest.length + 1) [] 0
    blockLines literal indent (line.reverse ++ text) lead breaks isBlank budget

def blockScalar (literal : Bool) : Scan Unit := do
  forgetCandidate
  allowKey true
  advance
  let (ending, depth, width) := blockHeader (← get).rest
  if depth == some 0 then throw .badScalar
  advanceBy width
  let s ← get
  let spaces := (s.rest.takeWhile isSpace).length
  advanceBy spaces
  let s ← get
  if s.rest.head? == some '#' then advanceBy (s.rest.takeWhile (!isBreak ·)).length
  let s ← get
  if !(s.rest.isEmpty || s.rest.head?.any isBreak) then throw .badScalar
  advance
  let base := s.indents.head?.getD 0
  let budget := s.rest.length + 1
  let (breaks, widest) ← emptyLines (depth.map (base + ·)) budget [] 0
  let indent := match depth with
    | some n => base + n
    | none => max (max widest s.least) 1
  let (text, lead, breaks) ← blockLines literal indent [] [] breaks false budget
  let text := if ending == .strip then text else lead ++ text
  let text := if ending == .keep then breaks ++ text else text
  add (.scalar text.reverse false)

/-! Tokens. -/

def isNameChar (c : Char) : Bool := c.isAlphanum || c == '_' || c == '-'

def afterName (cs : List Char) : Bool :=
  atGap cs || cs.head?.any fun c => "?:,]\x7d%@".toList.contains c || c == Char.ofNat 96

def named (make : List Char → Token) : Scan Unit := do
  noteCandidate
  allowKey false
  advance
  let name := (← get).rest.takeWhile isNameChar
  advanceBy name.length
  if name.isEmpty || !afterName (← get).rest then throw .badName
  add (make name)

def tagged : Scan Unit := do
  noteCandidate
  allowKey false
  let s ← get
  let text := s.rest.takeWhile fun c => !(isSpace c || isBreak c || (s.inFlow && isFlowMark c))
  advanceBy text.length
  add (.tag text)

def openFlow (start : Token) : Scan Unit := do
  noteCandidate
  modify fun s => { s with candidates := none :: s.candidates, keyAllowed := true }
  advance
  add start

def closeFlow (stop : Token) : Scan Unit := do
  forgetCandidate
  modify fun s => { s with
    candidates := if s.inFlow then s.candidates.drop 1 else s.candidates, keyAllowed := false }
  advance
  add stop

def flowEntry : Scan Unit := do
  forgetCandidate
  allowKey true
  advance
  add .flowEntry

def blockEntry : Scan Unit := do
  let s ← get
  if !s.inFlow then
    if !s.keyAllowed then throw .badPlace
    openBlock s.column none .blockSequence
  forgetCandidate
  allowKey true
  advance
  add .blockEntry

def explicitKey : Scan Unit := do
  let s ← get
  if !s.inFlow then
    if !s.keyAllowed then throw .badPlace
    openBlock s.column none .blockMapping
  forgetCandidate
  allowKey !s.inFlow
  advance
  add .key

def value : Scan Unit := do
  -- A colon makes the candidate before it a key.
  let s ← get
  match ← candidate with
  | some c =>
    insertAt c.place .key
    openBlock c.column (some c.place) .blockMapping
    dropCandidate
    allowKey false
  | none =>
    if !s.inFlow then
      if !s.keyAllowed then throw .badPlace
      openBlock s.column none .blockMapping
    allowKey !s.inFlow
  advance
  add .value

def documentMark (token : Token) : Scan Unit := do
  closeAll
  forgetCandidate
  allowKey false
  advanceBy 3
  add token

def directive : Scan Unit := do
  closeAll
  forgetCandidate
  allowKey false
  advanceBy ((← get).rest.takeWhile (!isBreak ·)).length
  add .directive

def skipGap : Nat → Scan Unit
  -- A line may not be indented by tabs.
  | 0 => return ()
  | budget + 1 => do
    let s ← get
    match s.rest with
    | [] => return ()
    | c :: _ =>
      if c == ' ' || (c == '\t' && (s.inFlow || !s.keyAllowed)) then
        advance
        skipGap budget
      else if c == '#' then
        advanceBy (s.rest.takeWhile (!isBreak ·)).length
        skipGap budget
      else if isBreak c then
        advance
        if !s.inFlow then allowKey true
        skipGap budget
      else return ()

def cannotStart : List Char := "-?:,[]\x7b\x7d#&*!|>'\"%@".toList ++ [Char.ofNat 96]

def startsPlain (inFlow : Bool) (c : Char) (rest : List Char) : Bool :=
  !(isSpace c || isBreak c || cannotStart.contains c) ||
  (c == '-' && !rest.head?.any isSpace) ||
  (!inFlow && (c == '?' || c == ':') && !atGap rest)

def token (c : Char) (rest : List Char) : Scan Unit := do
  let s ← get
  if s.column == 0 && c == '%' then directive
  else if s.column == 0 && atDocumentMark s.rest then
    documentMark (if c == '-' then .documentStart else .documentEnd)
  else if c == '[' then openFlow .flowSequence
  else if c == '\x7b' then openFlow .flowMapping
  else if c == ']' then closeFlow .flowSequenceEnd
  else if c == '\x7d' then closeFlow .flowMappingEnd
  else if c == ',' then flowEntry
  else if c == '-' && atGap rest then blockEntry
  else if c == '?' && (s.inFlow || atGap rest) then explicitKey
  else if c == ':' && (s.inFlow || atGap rest) then value
  else if c == '*' then named .alias
  else if c == '&' then named .anchor
  else if c == '!' then tagged
  else if c == '|' && !s.inFlow then blockScalar true
  else if c == '>' && !s.inFlow then blockScalar false
  else if c == '\'' || c == '"' then quotedScalar c
  else if startsPlain s.inFlow c rest then plainScalar
  else throw .noToken

def tokens : Nat → Scan Unit
  | 0 => return ()
  | budget + 1 => do
    skipGap ((← get).rest.length + 1)
    dropStale
    let s ← get
    match s.rest with
    | [] =>
      closeAll
      forgetCandidate
    | c :: rest =>
      closeTo s.column
      token c rest
      tokens budget

end Scan

def unifyBreaks : List Char → List Char
  | '\r' :: '\n' :: rest => '\n' :: unifyBreaks rest
  | c :: rest => (if c == '\r' || c.val == 0x85 then '\n' else c) :: unifyBreaks rest
  | [] => []

def isAllowed (c : Char) : Bool :=
  c == '\t' || c == '\n' || c == '\r' || (0x20 ≤ c.val && c.val ≤ 0x7e) || c.val == 0x85 ||
  (0xa0 ≤ c.val && c.val ≤ 0xfffd && c.val != 0xfeff) || 0x10000 ≤ c.val

def scan (text : String) : Except Fault (List Token) :=
  let cs := match text.toList with
    | c :: rest => if c.val == 0xfeff then rest else c :: rest
    | [] => []
  if cs.all isAllowed then
    match (Scan.tokens (cs.length + 2)).run { rest := unifyBreaks cs } with
    | .ok (_, s) => .ok s.tokens.toList
    | .error fault => .error fault
  else .error .badCharacter

end TenantRelay.Document.Yaml
