import TenantRelay.Url.Host

/-! Absolute addresses, read leniently and written in one way. -/

namespace TenantRelay

namespace Url

inductive Path where
  | segments (all : List (List Char))
  | whole (text : List Char)
deriving DecidableEq

end Url

structure Url where
  scheme : List Char
  user : List Char := []
  password : List Char := []
  host : Option (List Char) := none
  portNumber : Option Nat := none
  path : Url.Path
  query : Option (List Char) := none
  fragment : Option (List Char) := none
deriving DecidableEq

namespace Url

def webSchemes : List (List Char × Nat) :=
  [("http".toList, 80), ("https".toList, 443), ("ws".toList, 80), ("wss".toList, 443),
   ("ftp".toList, 21)]

def defaultPort? (scheme : List Char) : Option Nat := webSchemes.lookup scheme

def isWeb (scheme : List Char) : Bool := (defaultPort? scheme).isSome

def fileScheme : List Char := "file".toList

def isSlash (web : Bool) (c : Char) : Bool := c == '/' || (web && c == '\\')

def trimmed (cs : List Char) : List Char :=
  let front := cs.dropWhile (·.val ≤ 0x20)
  ((front.reverse.dropWhile (·.val ≤ 0x20)).reverse).filter fun c =>
    c != '\t' && c != '\n' && c != '\r'

def cut (isMark : Char → Bool) (cs : List Char) : List Char × Option (List Char) :=
  match cs.dropWhile (!isMark ·) with
  | [] => (cs, none)
  | _ :: rest => (cs.takeWhile (!isMark ·), some rest)

def isSchemeChar (c : Char) : Bool := c.isAlphanum || c == '+' || c == '-' || c == '.'

def readScheme (cs : List Char) : Except Fault (List Char × List Char) :=
  match cut (· == ':') cs with
  | (c :: scheme, some rest) =>
    if c.isAlpha && scheme.all isSchemeChar then .ok ((c :: scheme).map Char.toLower, rest)
    else .error .relative
  | _ => .error .relative

def isDot (segment : List Char) : Bool :=
  segment == ['.'] || segment.map Char.toLower == "%2e".toList

def isDoubleDot (segment : List Char) : Bool :=
  ["..", ".%2e", "%2e.", "%2e%2e"].any fun dots => segment.map Char.toLower == dots.toList

/-- Follows the parts of a path: one dot stays where it is, two go up. Either leaves an
open end if it comes last. -/
def walk (sofar : List (List Char)) : List (List Char) → List (List Char)
  | [] => sofar
  | segment :: rest =>
    let gap : List (List Char) := if rest.isEmpty then [[]] else []
    if isDoubleDot segment then walk (sofar.dropLast ++ gap) rest
    else if isDot segment then walk (sofar ++ gap) rest
    else walk (sofar ++ [escape pathEscapes segment]) rest

def readSegments (web : Bool) (cs : List Char) : List (List Char) :=
  walk [] (splitAt (isSlash web) cs)

def readPath (web : Bool) (cs : List Char) : List (List Char) :=
  match cs with
  | [] => if web then [[]] else []
  | _ :: rest => readSegments web rest

def lastCut (isMark : Char → Bool) (cs : List Char) : Option (List Char × List Char) :=
  match cut isMark cs.reverse with
  | (_, none) => none
  | (back, some front) => some (front.reverse, back.reverse)

/-- A colon in brackets does not start a port number. -/
def splitPort (cs : List Char) : List Char × Option (List Char) :=
  match lastCut (· == ':') cs with
  | none => (cs, none)
  | some (host, digits) => if digits.contains ']' then (cs, none) else (host, some digits)

def readPort (scheme : List Char) : Option (List Char) → Except Fault (Option Nat)
  | none => .ok none
  | some digits =>
    if digits.isEmpty then .ok none
    else if digits.all Char.isDigit then
      match valueIn? 10 digits with
      | some n =>
        if 65535 < n then .error .badPort
        else .ok (if defaultPort? scheme = some n then none else some n)
      | none => .error .badPort
    else .error .badPort

def readAuthority (scheme : List Char) (cs : List Char) (path : Path) : Except Fault Url := do
  let (user, place) := match lastCut (· == '@') cs with
    | none => ([], cs)
    | some (user, place) => (user, place)
  let (name, password) := cut (· == ':') user
  let (host, digits) := splitPort place
  let web := isWeb scheme
  let host ←
    if web then readHost host
    else if host.isEmpty && (digits.isSome || !user.isEmpty) then throw .emptyHost
    else readOpaqueHost host
  let portNumber ← readPort scheme digits
  return { scheme, user := escape userEscapes name, path, host := some host, portNumber
           password := escape userEscapes (password.getD []) }

def readFile (cs : List Char) : Except Fault Url :=
  -- A file is on no host that counts here.
  match cs with
  | a :: b :: rest =>
    if isSlash true a && isSlash true b then
      let host := rest.takeWhile (!isSlash true ·)
      let path := Path.segments (readPath true (rest.dropWhile (!isSlash true ·)))
      if host.isEmpty || host == "localhost".toList then
        .ok { scheme := fileScheme, host := some [], path }
      else (readHost host).map fun host => { scheme := fileScheme, host := some host, path }
    else .ok { scheme := fileScheme, host := some [], path := .segments (readPath true cs) }
  | cs => .ok { scheme := fileScheme, host := some [], path := .segments (readPath true ('/' :: cs)) }

def readBody (scheme cs : List Char) : Except Fault Url :=
  if scheme = fileScheme then readFile cs
  else if isWeb scheme then
    let rest := cs.dropWhile (isSlash true)
    readAuthority scheme (rest.takeWhile (!isSlash true ·))
      (.segments (readPath true (rest.dropWhile (!isSlash true ·))))
  else match cs with
    | '/' :: '/' :: rest =>
      readAuthority scheme (rest.takeWhile (!isSlash false ·))
        (.segments (readPath false (rest.dropWhile (!isSlash false ·))))
    | '/' :: rest => .ok { scheme, path := .segments (readSegments false rest) }
    | _ => .ok { scheme, path := .whole (escape [] cs) }

def parse (text : String) : Except Fault Url := do
  let (front, fragment) := cut (· == '#') (trimmed text.toList)
  let (scheme, rest) ← readScheme front
  let (body, query) := cut (· == '?') rest
  let url ← readBody scheme body
  let escapes := if isWeb scheme then webQueryEscapes else queryEscapes
  return { url with
    query := query.map (escape escapes), fragment := fragment.map (escape fragmentEscapes) }

/-! Writing. -/

def hostText (url : Url) : List Char :=
  match url.host with
  | none => []
  | some host =>
    let login := if url.user.isEmpty && url.password.isEmpty then []
      else url.user ++ (if url.password.isEmpty then [] else ':' :: url.password) ++ ['@']
    let ending := match url.portNumber with
      | some n => ':' :: (toString n).toList
      | none => []
    '/' :: '/' :: login ++ host ++ ending

def pathText (path : Path) : List Char :=
  match path with
  | .segments all => all.flatMap ('/' :: ·)
  | .whole text => text

def optional (mark : Char) : Option (List Char) → List Char
  | some text => mark :: text
  | none => []

def render (url : Url) : String :=
  String.ofList (url.scheme ++ ':' :: url.hostText ++ pathText url.path ++
    optional '?' url.query ++ optional '#' url.fragment)

def hasHost (url : Url) : Bool := url.host.any (!·.isEmpty)

/-- A login is not part of what is shown of an address that is asked. -/
def withoutLogin (url : Url) : Url := { url with user := [], password := [] }

end Url
end TenantRelay
