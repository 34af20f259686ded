import AlertRelay.Yaml.Scalar
import AlertRelay.Yaml.Token

namespace AlertRelay.Yaml

open Read

/-- What may turn out to be a key: its place among the tokens, and where it starts. Nothing else
can stand where a key is required. -/
structure Candidate where
  slot : Nat
  required : Bool
  index : Nat
  line : Nat
  column : Nat

structure Lexer where
  slots : Array Slot
  depth : Nat
  /-- The column of the innermost block collection, `-1` outside of all. -/
  indent : Int
  outer : List Int
  keyAllowed : Bool
  /-- What may turn out to be a key, by the number of flow collections around it. -/
  candidates : List (Nat × Candidate)
  cursor : Cursor

def keyLimit : Nat := 1024

def Candidate.isStale (k : Candidate) (c : Cursor) : Bool :=
  k.line != c.line || keyLimit < c.index - k.index

namespace Lexer

def start (cs : List Char) : Lexer := ⟨#[], 0, -1, [], true, [], .ofText cs⟩

abbrev Step := StateT Lexer (Except Error)

def read {α : Type} (r : Read α) : Step α := do
  let s ← get
  let (a, cursor) ← r s.cursor
  set { s with cursor }
  return a

def push (t : Token) : Step Unit := modify fun s => { s with slots := s.slots.push (.token t) }

def allowKey (b : Bool) : Step Unit := modify fun s => { s with keyAllowed := b }

def dropCandidates (p : Nat → Candidate → Bool) : Step Unit := do
  let s ← get
  if s.candidates.any fun (d, c) => p d c && c.required then throw .malformed
  set { s with candidates := s.candidates.filter fun (d, c) => !p d c }

def dropStale : Step Unit := do
  let c := (← get).cursor
  dropCandidates fun _ k => k.isStale c

def dropCandidate : Step Unit := do
  let depth := (← get).depth
  dropCandidates fun d _ => d == depth

def offerCandidate : Step Unit := do
  let s ← get
  if s.keyAllowed then
    dropCandidate
    modify fun s =>
      let c := s.cursor
      let required := s.depth == 0 && s.indent == (c.column : Int)
      { s with
        slots := s.slots.push .open
        candidates := (s.depth, ⟨s.slots.size, required, c.index, c.line, c.column⟩) ::
          s.candidates }

def unwind (column : Int) : Step Unit := do
  let s ← get
  if s.depth == 0 then
    let closed := (s.indent :: s.outer).takeWhile (column < ·)
    let left := (s.indent :: s.outer).dropWhile (column < ·)
    set { s with
      slots := s.slots ++ (closed.map fun _ => Slot.token .blockEnd).toArray
      indent := left.headD (-1)
      outer := left.drop 1 }

def indentTo (column : Nat) : Step Bool := do
  let s ← get
  if s.indent < (column : Int) then
    set { s with indent := (column : Int), outer := s.indent :: s.outer }
    return true
  else return false

def skipSpace : Nat → Step Unit
  | 0 => throw .malformed
  | fuel + 1 => do
    let ended ← read do
      skipWhile (· == ' ')
      if (← peek) == '#' then skipWhile (!isBreakOrEnd ·)
      let b ← lineBreak
      return !b.isEmpty
    if ended then
      if (← get).depth == 0 then allowKey true
      skipSpace fuel

def skipMark : Step Unit := do
  let c := (← get).cursor
  if c.index == 0 && c.look 0 == '\uFEFF' then read (skip 1)

def readVersion : Read Nat := do
  skipWhile (· == ' ')
  let major ← takeWhile Char.isDigit
  if major.isEmpty then fail
  if Number.digitLimit < major.length then throw (.limit (.reading major.length))
  expect (· == '.')
  skip 1
  let minor ← takeWhile Char.isDigit
  if minor.isEmpty then fail
  if Number.digitLimit < minor.length then throw (.limit (.reading minor.length))
  expect isSpaceOrBreak
  return Number.natOfDigits major

def readDirective : Read Token := do
  skip 1
  let name ← takeWhile isNameChar
  if name.isEmpty then fail
  expect isSpaceOrBreak
  let t ←
    if name == "YAML".toList then do pure (.version (← readVersion))
    else if name == "TAG".toList then do
      skipWhile (· == ' ')
      let handle ← readHandle
      expect (· == ' ')
      skipWhile (· == ' ')
      let meaning ← readUri
      expect isSpaceOrBreak
      pure (.handle handle meaning)
    else do
      skipWhile (!isBreakOrEnd ·)
      pure .directive
  restOfLine
  return t

def pushMark (t : Token) : Step Unit := do
  read (skip 1)
  push t

def leaveBlocks : Step Unit := do
  unwind (-1)
  dropCandidate
  allowKey false

def separator (t : Token) : Step Unit := do
  leaveBlocks
  read (skip 3)
  push t

def flowStart (t : Token) : Step Unit := do
  offerCandidate
  modify fun s => { s with depth := s.depth + 1 }
  allowKey true
  pushMark t

def flowEnd (t : Token) : Step Unit := do
  dropCandidate
  if (← get).depth == 0 then throw .malformed
  modify fun s => { s with depth := s.depth - 1 }
  allowKey false
  pushMark t

/-- An entry or a key that is marked as such. Outside of flow collections it may open one of its
own, and stands only where a key may. -/
def blockMark (opening : Token) : Step Unit := do
  let s ← get
  if s.depth == 0 then
    if !s.keyAllowed then throw .malformed
    if ← indentTo s.cursor.column then push opening

def blockEntry : Step Unit := do
  blockMark .blockSequenceStart
  allowKey true
  dropCandidate
  pushMark .blockEntry

def key : Step Unit := do
  blockMark .blockMappingStart
  allowKey ((← get).depth == 0)
  dropCandidate
  pushMark .key

/-- A colon. It makes a key of what was offered for one. -/
def value : Step Unit := do
  let s ← get
  match s.candidates.lookup s.depth with
  | some c => do
    modify fun s => { s with candidates := s.candidates.filter fun (d, _) => d != s.depth }
    let mapping ← if s.depth == 0 then indentTo c.column else pure false
    modify fun s => { s with slots := s.slots.setIfInBounds c.slot (.key mapping) }
    allowKey false
  | none => do
    blockMark .blockMappingStart
    allowKey (s.depth == 0)
    dropCandidate
  pushMark .value

def offered (r : Read Token) : Step Unit := do
  offerCandidate
  allowKey false
  push (← read r)

def block (folded : Bool) : Step Unit := do
  allowKey true
  dropCandidate
  let indent := (← get).indent
  push (.scalar (← read (readBlock folded indent)) false)

def plain : Step Unit := do
  offerCandidate
  let s ← get
  let (text, ended) ← read (readPlain (s.depth != 0) (s.indent + 1) [] false
    (s.cursor.rest.length + 1))
  allowKey ended
  push (.scalar text true)

def startsPlain (s : Lexer) : Bool :=
  let c := s.cursor.look 0
  let d := s.cursor.look 1
  !(isGap c || "-?:,[]\x7b\x7d#&*!|>'\"%@\x60".toList.contains c) ||
    (!isGap d && (c == '-' || (s.depth == 0 && (c == '?' || c == ':'))))

def fetch : Step Bool := do
  skipMark
  skipSpace ((← get).cursor.rest.length + 1)
  dropStale
  let s ← get
  unwind s.cursor.column
  let c := s.cursor.look 0
  let gap := isGap (s.cursor.look 1)
  let inFlow := s.depth != 0
  let atStart := s.cursor.column == 0
  if isEnd c then
    leaveBlocks
    push .streamEnd
    return false
  else
    if c == '%' && atStart then
      leaveBlocks
      push (← read readDirective)
    else if atStart && s.cursor.atSeparator then
      separator (if c == '-' then .documentStart else .documentEnd)
    else if c == '[' then flowStart .flowSequenceStart
    else if c == '\x7b' then flowStart .flowMappingStart
    else if c == ']' then flowEnd .flowSequenceEnd
    else if c == '\x7d' then flowEnd .flowMappingEnd
    else if c == ',' then
      allowKey true
      dropCandidate
      pushMark .flowEntry
    else if c == '-' && gap then blockEntry
    else if c == '?' && (inFlow || gap) then key
    else if c == ':' && (inFlow || gap) then value
    else if c == '*' then offered (do return .alias (← readAnchor))
    else if c == '&' then offered (do return .anchor (← readAnchor))
    else if c == '!' then offered (do let (h, t) ← readTag; return .tag h t)
    else if c == '|' && !inFlow then block false
    else if c == '>' && !inFlow then block true
    else if c == '\x27' then offered (do return .scalar (← readQuoted false) false)
    else if c == '"' then offered (do return .scalar (← readQuoted true) false)
    else if s.startsPlain then plain
    else throw .malformed
    return true

/-- The places of which it is settled what they hold. What follows the first candidate is not, and
whoever asks for it has the text read on. -/
def settled (s : Lexer) : Array Slot :=
  let live := s.candidates.filter fun (_, k) => !k.isStale s.cursor
  s.slots.take (live.foldl (fun n (_, k) => min n k.slot) s.slots.size)

/-- All tokens, the last one being the end of the text or a failure, which stands where it is met
first. -/
def fetchAll : Nat → Lexer → Array Slot
  | 0, s => s.slots.push (.token (.failure .malformed))
  | fuel + 1, s =>
    match fetch s with
    | .error e => s.settled.push (.token (.failure e))
    | .ok (more, s) => if more then fetchAll fuel s else s.slots

end Lexer

def isAllowed (c : Char) : Bool :=
  let n := c.toNat
  n == 9 || n == 10 || n == 13 || (0x20 ≤ n && n ≤ 0x7E) || n == 0x85 ||
    (0xA0 ≤ n && n ≤ 0xD7FF) || (0xE000 ≤ n && n ≤ 0xFFFD) || 0x10000 ≤ n

def tokens (cs : List Char) : List Token :=
  if !cs.all isAllowed then [.failure .malformed]
  else (Lexer.fetchAll (cs.length + 2) (.start cs)).toList.flatMap Slot.tokens

end AlertRelay.Yaml
