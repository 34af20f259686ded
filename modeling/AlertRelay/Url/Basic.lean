import AlertRelay.Number.Decimal
import AlertRelay.Text.Blank
import AlertRelay.Text.Digit
import AlertRelay.Text.Lower
import AlertRelay.Url.Address
import AlertRelay.Url.Escape
import AlertRelay.Url.Label

namespace AlertRelay

open AlertRelay.Number AlertRelay.Text

structure Url where
  scheme : List Char
  user : List Char
  host : List Char
  port : Option Int
  path : List Char
  query : Option (List Char)
  fragment : Option (List Char)
  deriving DecidableEq, Repr

namespace Url

inductive Flaw where
  | tooLong
  | control (c : Char) (pos : Nat)
  | fourPart (host : List Char)
  | eightPart (host : List Char)
  | name (host : List Char)
  | port (text : List Char)
  | pathAfterHost
  | pathSlashes
  | pathColon
  deriving DecidableEq, Repr

def Flaw.message : Flaw → String
  | .tooLong => "URL too long"
  | .control c pos =>
    "Invalid non-printable ASCII character in URL, " ++ quoted (String.singleton c) ++
      " at position " ++ toString pos ++ "."
  | .fourPart host => "Invalid IPv4 address: " ++ quoted (String.ofList host)
  | .eightPart host => "Invalid IPv6 address: " ++ quoted (String.ofList host)
  | .name host => "Invalid IDNA hostname: " ++ quoted (String.ofList host)
  | .port text => "Invalid port: " ++ quoted (String.ofList text)
  | .pathAfterHost => "For absolute URLs, path must be empty or begin with '/'"
  | .pathSlashes => "Relative URLs cannot have a path starting with '//'"
  | .pathColon => "Relative URLs cannot have a path starting with ':'"

def lengthLimit : Nat := 65536

def isSchemeChar (c : Char) : Bool := c.isAlphanum || c == '+' || c == '.' || c == '-'

def splitScheme (cs : List Char) : List Char × List Char :=
  let scheme :=
    match cs with
    | c :: r => if c.isAlpha then c :: r.takeWhile isSchemeChar else []
    | [] => []
  match cs.drop scheme.length with
  | ':' :: r => (scheme, r)
  | _ => ([], cs)

def splitAuthority : List Char → List Char × List Char
  | '/' :: '/' :: r =>
    let p := fun c => c != '/' && c != '?' && c != '#'
    (r.takeWhile p, r.dropWhile p)
  | cs => ([], cs)

/-- The part that a mark opens, up to where `ends` holds, and the rest. -/
def splitMarked (mark : Char) (ends : Char → Bool) : List Char → Option (List Char) × List Char
  | [] => (none, [])
  | c :: r =>
    if c == mark then (some (r.takeWhile (!ends ·)), r.dropWhile (!ends ·)) else (none, c :: r)

def splitLast? (c : Char) (cs : List Char) : Option (List Char × List Char) :=
  if cs.contains c then
    let after := (cs.reverse.takeWhile (· != c)).reverse
    some (cs.take (cs.length - after.length - 1), after)
  else none

def splitHost (authority : List Char) : List Char × List Char × List Char :=
  let (user, r) := (splitLast? '@' authority).getD ([], authority)
  let host :=
    match r.head?, splitLast? ']' r with
    | some '[', some (inside, _) => inside ++ [']']
    | _, _ => r.takeWhile (· != ':')
  let r := r.drop host.length
  (user, host, if r.head? == some ':' then r.drop 1 else r)

def isBracketed (host : List Char) : Bool := host.head? == some '[' && host.getLast? == some ']'

/-- A host in normal form: an address as it is, a plain name in small letters with escapes, any
other name as it is written on the wire. -/
def readHost (host : List Char) : Except Flaw (List Char) :=
  if host.isEmpty then .ok []
  else if looksFourPart host then
    if isFourPart host then .ok host else .error (.fourPart host)
  else if isBracketed host then
    let inside := (host.drop 1).dropLast
    if isEightPart inside then .ok inside else .error (.eightPart host)
  else if host.all (·.toNat < 0x80) then .ok (escape hostSafe (lowerAscii host))
  else
    match wireName (lowerCodes (host.map Char.toNat)) with
    | .ok codes => .ok (codes.map Char.ofNat)
    | .error _ => .error (.name host)

/-- Whether digits of any script stand in a row, with single underscores between them at will. -/
def areGroupedDigits : List Char → Bool
  | [] => false
  | [c] => isDigit c
  | c :: '_' :: rest => isDigit c && areGroupedDigits rest
  | c :: rest => isDigit c && areGroupedDigits rest

/-- A port: an optional sign and digits, with white space around them at will. -/
def portNumber? (cs : List Char) : Option Int :=
  let (negative, ds) := Double.takeSign (trimBy isWhiteSpace cs)
  let digits := ds.filter (· != '_')
  if areGroupedDigits ds && digits.length ≤ digitLimit then
    let n := Int.ofNat (digitsValue digits)
    some (if negative then -n else n)
  else none

def defaultPort? (scheme : List Char) : Option Int :=
  [("ftp", 21), ("http", 80), ("https", 443), ("ws", 80), ("wss", 443)].lookup
    (String.ofList scheme)

def readPort (scheme port : List Char) : Except Flaw (Option Int) :=
  if port.isEmpty then .ok none
  else
    match portNumber? port with
    | none => .error (.port port)
    | some n => .ok (if defaultPort? scheme == some n then none else some n)

/-- Adds a segment to a path, latest first: a dot adds none, and two dots remove the last one. -/
def addSegment (done : List (List Char)) (segment : List Char) : List (List Char) :=
  if segment == ['.'] then done
  else if segment == ['.', '.'] then if done == [[]] then done else done.drop 1
  else segment :: done

def removeDots (path : List Char) : List Char :=
  ['/'].intercalate ((splitAt '/' path).foldl addSegment []).reverse

def checkPath (path : List Char) (hasScheme hasAuthority : Bool) : Except Flaw Unit :=
  if hasAuthority && !path.isEmpty && path.head? != some '/' then .error .pathAfterHost
  else if !hasScheme && !hasAuthority && startsWith ['/', '/'] path then .error .pathSlashes
  else if !hasScheme && !hasAuthority && path.head? == some ':' then .error .pathColon
  else .ok ()

def isControl (c : Char) : Bool := c.toNat < 0x20 || c.toNat == 0x7F

def parse (s : String) : Except Flaw Url := do
  let cs := s.toList
  if lengthLimit < cs.length then throw .tooLong
  match cs.find? isControl with
  | some c => throw (.control c (cs.takeWhile (!isControl ·)).length)
  | none =>
    let (scheme, r) := splitScheme cs
    let (authority, r) := splitAuthority r
    let p := fun c => c != '?' && c != '#'
    let path := r.takeWhile p
    let (query, r) := splitMarked '?' (· == '#') (r.dropWhile p)
    let (fragment, _) := splitMarked '#' (fun _ => false) r
    let (user, host, port) := splitHost authority
    let user := escape userSafe user
    let host ← readHost host
    let port ← readPort scheme port
    let hasScheme := !scheme.isEmpty
    let hasAuthority := !user.isEmpty || !host.isEmpty || port.isSome
    checkPath path hasScheme hasAuthority
    let path := if hasScheme || hasAuthority then removeDots path else path
    return {
      scheme := lowerAscii scheme
      user, host, port
      path := escape pathSafe path
      query := query.map (escape querySafe)
      fragment := fragment.map (escape fragmentSafe) }

def hostText (u : Url) : List Char :=
  (if u.host.contains ':' then '[' :: u.host ++ [']'] else u.host) ++
    match u.port with
    | some n => ':' :: intDigits n
    | none => []

def authority (u : Url) : List Char :=
  (if u.user.isEmpty then [] else u.user ++ ['@']) ++ u.hostText

def text (u : Url) : String :=
  let authority := u.authority
  String.ofList <|
    (if u.scheme.isEmpty then [] else u.scheme ++ [':']) ++
    (if authority.isEmpty then [] else '/' :: '/' :: authority) ++
    u.path ++
    (match u.query with | some q => '?' :: q | none => []) ++
    (match u.fragment with | some f => '#' :: f | none => [])

/-- Checks that the host can be shown: one in Punycode has to stand for a name. -/
def checkHost (u : Url) : Except LabelError Unit :=
  let codes := u.host.map Char.toNat
  if wireMark.isPrefixOf codes then checkWireName codes else .ok ()

def isWeb (u : Url) : Bool := u.scheme == "http".toList || u.scheme == "https".toList

def credentials (u : Url) : String × String :=
  let name := u.user.takeWhile (· != ':')
  (String.ofList (unescape name), String.ofList (unescape (u.user.drop (name.length + 1))))

end Url

end AlertRelay
