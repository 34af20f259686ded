import AlertRelay.Number.Power
import AlertRelay.Text.Hex
import AlertRelay.Text.Utf8
import AlertRelay.Yaml.Cursor

namespace AlertRelay.Yaml

open AlertRelay.Text Read

def isNameChar (c : Char) : Bool := c.isAlphanum || c == '-' || c == '_'

def readAnchor : Read String := do
  skip 1
  let name ← takeWhile isNameChar
  if name.isEmpty then fail
  expect fun c => isGap c || "?:,]\x7d%@\x60".toList.contains c
  return String.ofList name

def isUriChar (c : Char) : Bool :=
  c.isAlphanum || "-;/?:@&=+$,_.!~*'()[]%".toList.contains c

def escapeBytes? : List Char → Option (List Nat × List Char)
  | '%' :: a :: b :: rest =>
    if isHex a && isHex b then
      (escapeBytes? rest).map fun (bs, r) => ((16 * hexValue a + hexValue b) :: bs, r)
    else none
  | '%' :: _ => none
  | rest => some ([], rest)

def readUri : Read String := do
  let cs ← takeWhile isUriChar
  if cs.isEmpty then fail
  match replaceEscapes cs.length cs with
  | some cs => return String.ofList cs
  | none => fail
where
  replaceEscapes : Nat → List Char → Option (List Char)
    | 0, cs => if cs.isEmpty then some [] else none
    | fuel + 1, cs =>
      let plain := cs.takeWhile (· != '%')
      match cs.dropWhile (· != '%') with
      | [] => some plain
      | r =>
        match escapeBytes? r with
        | none => none
        | some (bs, r) =>
          match Utf8.decode? bs with
          | none => none
          | some text => (replaceEscapes fuel r).map fun more => plain ++ text ++ more

def readHandle : Read String := do
  expect (· == '!')
  if (← peek 1) == ' ' then
    skip 1
    return "!"
  else
    skip 1
    let name ← takeWhile isNameChar
    expect (· == '!')
    skip 1
    return String.ofList ('!' :: name ++ ['!'])

def hasHandle (c : Cursor) : Bool :=
  ((c.rest.drop 1).takeWhile (!isSpaceOrBreak ·)).contains '!'

def readTag : Read (Option String × String) := do
  let c ← peek 1
  let tag ←
    if c == '<' then do
      skip 2
      let uri ← readUri
      expect (· == '>')
      skip 1
      pure (none, uri)
    else if isGap c then do
      skip 1
      pure (none, "!")
    else if hasHandle (← get) then do
      let handle ← readHandle
      pure (some handle, ← readUri)
    else do
      skip 1
      pure (some "!", ← readUri)
  expect isSpaceOrBreak
  return tag

def readQuotedBreaks : Nat → Read (List Char)
  | 0 => fail
  | fuel + 1 => do
    if (← get).atSeparator then fail
    skipWhile fun c => c == ' ' || c == '\t'
    if isBreak (← peek) then
      let b ← lineBreak
      return b ++ (← readQuotedBreaks fuel)
    else return []

/-- Joins two lines: a single line feed becomes a space, and further breaks are kept. -/
def foldBreaks (first breaks : List Char) : List Char :=
  (if first != ['\n'] then first else if breaks.isEmpty then [' '] else []) ++ breaks

def readQuotedSpace : Read (List Char) := do
  let blanks ← takeWhile fun c => c == ' ' || c == '\t'
  let c ← peek
  if isEnd c then fail
  else if isBreak c then
    let b ← lineBreak
    return foldBreaks b (← readQuotedBreaks ((← size) + 1))
  else return blanks

def escapes : List (Char × Char) :=
  [('0', '\x00'), ('a', '\x07'), ('b', '\x08'), ('t', '\t'), ('\t', '\t'), ('n', '\n'),
    ('v', '\x0b'), ('f', '\x0c'), ('r', '\r'), ('e', '\x1b'), (' ', ' '), ('"', '"'),
    ('\\', '\\'), ('/', '/'), ('N', '\x85'), ('_', '\xa0'), ('L', '\u2028'), ('P', '\u2029')]

def codeLength? (c : Char) : Option Nat :=
  if c == 'x' then some 2 else if c == 'u' then some 4 else if c == 'U' then some 8 else none

def readEscape : Read (List Char) := do
  let c ← peek
  match escapes.lookup c with
  | some e =>
    skip 1
    return [e]
  | none =>
    match codeLength? c with
    | some n => do
      skip 1
      let ds := (← get).rest.take n
      if ds.length < n || !ds.all isHex then fail
      let code := ds.foldl (fun k d => 16 * k + hexValue d) 0
      if Number.powTwo 31 ≤ code then throw .codeTooLarge
      if 0x110000 ≤ code then throw .codeRange
      skip n
      return [Char.ofNat code]
    | none =>
      if isBreak c then
        let _ ← lineBreak
        readQuotedBreaks ((← size) + 1)
      else fail

def isQuotedPlain (c : Char) : Bool := !(c == '\x27' || c == '"' || c == '\\' || isGap c)

def readQuotedWord (double : Bool) : Nat → Read (List Char)
  | 0 => fail
  | fuel + 1 => do
    let plain ← takeWhile isQuotedPlain
    let c ← peek
    if !double && c == '\x27' && (← peek 1) == '\x27' then
      skip 2
      return plain ++ '\x27' :: (← readQuotedWord double fuel)
    else if (double && c == '\x27') || (!double && (c == '"' || c == '\\')) then
      skip 1
      return plain ++ c :: (← readQuotedWord double fuel)
    else if double && c == '\\' then
      skip 1
      let e ← readEscape
      return plain ++ e ++ (← readQuotedWord double fuel)
    else return plain

def readQuotedRest (double : Bool) : Nat → Read (List Char)
  | 0 => fail
  | fuel + 1 => do
    if (← peek) == (if double then '"' else '\x27') then
      skip 1
      return []
    else
      let space ← readQuotedSpace
      let word ← readQuotedWord double ((← size) + 1)
      return space ++ word ++ (← readQuotedRest double fuel)

def readQuoted (double : Bool) : Read (List Char) := do
  skip 1
  let word ← readQuotedWord double ((← size) + 1)
  return word ++ (← readQuotedRest double ((← size) + 1))

inductive Chomping where
  | clip
  | strip
  | keep
  deriving DecidableEq, Repr

def chomping? (c : Char) : Option Chomping :=
  if c == '+' then some .keep else if c == '-' then some .strip else none

def readIncrement : Read (Option Nat) := do
  let c ← peek
  if c.isDigit then
    if c == '0' then fail
    skip 1
    return some (c.toNat - 48)
  else return none

def readBlockMarks : Read (Chomping × Option Nat) := do
  match chomping? (← peek) with
  | some ch => do
    skip 1
    let n ← readIncrement
    expect isSpaceOrBreak
    return (ch, n)
  | none =>
    match ← readIncrement with
    | none => do
      expect isSpaceOrBreak
      return (.clip, none)
    | some n =>
      match chomping? (← peek) with
      | some ch => do
        skip 1
        expect isSpaceOrBreak
        return (ch, some n)
      | none => do
        expect isSpaceOrBreak
        return (.clip, some n)

/-- Empty lines before a block scalar, and the greatest column that spaces reach in them. -/
def readLeadingLines (deepest : Nat) : Nat → Read (List Char × Nat)
  | 0 => fail
  | fuel + 1 => do
    let c ← peek
    if c == ' ' then
      skip 1
      readLeadingLines (max deepest (← get).column) fuel
    else if isBreak c then
      let b ← lineBreak
      let (bs, deepest) ← readLeadingLines deepest fuel
      return (b ++ bs, deepest)
    else return ([], deepest)

def skipIndent (indent : Nat) : Read Unit := do
  let c ← get
  skip (min (indent - c.column) (c.rest.takeWhile (· == ' ')).length)

def readBlockBreaks (indent : Nat) : Nat → Read (List (List Char))
  | 0 => fail
  | fuel + 1 => do
    skipIndent indent
    if isBreak (← peek) then
      let b ← lineBreak
      return b :: (← readBlockBreaks indent fuel)
    else return []

def isBlankChar (c : Char) : Bool := c == ' ' || c == '\t'

/-- The lines of a block scalar, after some empty ones. Gives the text without the breaks at its
end, the first of these, and the others. -/
def readBlockLines (folded : Bool) (indent : Nat) (breaks : List (List Char)) :
    Nat → Read (List Char × List Char × List (List Char))
  | 0 => fail
  | fuel + 1 => do
    let here ← get
    if here.column != indent || isEnd (here.look 0) then return ([], [], breaks)
    else
      let flush := !isBlankChar (← peek)
      let line ← takeWhile (!isBreakOrEnd ·)
      let b ← lineBreak
      let after ← readBlockBreaks indent ((← size) + 1)
      let start := breaks.flatten ++ line
      let there ← get
      if there.column != indent || isEnd (there.look 0) then return (start, b, after)
      else
        let joint :=
          if folded && b == ['\n'] && flush && !isBlankChar (← peek) then
            if after.isEmpty then [' '] else []
          else b
        let (more, last, tail) ← readBlockLines folded indent after fuel
        return (start ++ joint ++ more, last, tail)

def readBlock (folded : Bool) (outer : Int) : Read (List Char) := do
  skip 1
  let (chomping, increment) ← readBlockMarks
  restOfLine
  let least := (max (outer + 1) 1).toNat
  let (indent, breaks) ←
    match increment with
    | some n => do
      let indent := least + n - 1
      pure (indent, ← readBlockBreaks indent ((← size) + 1))
    | none => do
      let (bs, deepest) ← readLeadingLines 0 ((← size) + 1)
      pure (max least deepest, [bs])
  let (text, last, tail) ← readBlockLines folded indent breaks ((← size) + 1)
  return text ++ (if chomping == .strip then [] else last) ++
    (if chomping == .keep then tail.flatten else [])

def endsPlain (flow : Bool) (c d : Char) : Bool :=
  isGap c || (c == ':' && (isGap d || (flow && ",[]\x7b\x7d".toList.contains d))) ||
    (flow && ",?[]\x7b\x7d".toList.contains c)

def plainWord (flow : Bool) : List Char → List Char
  | [] => []
  | c :: rest => if endsPlain flow c (rest.headD endMark) then [] else c :: plainWord flow rest

def readPlainBreaks : Nat → Read (Option (List Char))
  | 0 => fail
  | fuel + 1 => do
    if (← peek) == ' ' then
      skip 1
      readPlainBreaks fuel
    else if isBreak (← peek) then
      let b ← lineBreak
      if (← get).atSeparator then return none
      return (← readPlainBreaks fuel).map (b ++ ·)
    else return some []

/-- Space after a word of a plain scalar, nothing if the scalar ends, and whether a line ended. -/
def readPlainSpace : Read (List Char × Bool) := do
  let blanks ← takeWhile (· == ' ')
  if isBreak (← peek) then
    let b ← lineBreak
    if (← get).atSeparator then return ([], true)
    match ← readPlainBreaks ((← size) + 1) with
    | none => return ([], true)
    | some breaks => return (foldBreaks b breaks, true)
  else return (blanks, false)

/-- A plain scalar, and whether it ended with a line. -/
def readPlain (flow : Bool) (indent : Int) (space : List Char) (ended : Bool) :
    Nat → Read (List Char × Bool)
  | 0 => fail
  | fuel + 1 => do
    let here ← get
    let word := plainWord flow here.rest
    if here.look 0 == '#' || word.isEmpty then return ([], ended)
    else
      skip word.length
      let (after, lineEnded) ← readPlainSpace
      let there ← get
      let start := space ++ word
      if after.isEmpty || there.look 0 == '#' || (!flow && (there.column : Int) < indent) then
        return (start, lineEnded)
      else
        let (more, ended) ← readPlain flow indent after lineEnded fuel
        return (start ++ more, ended)

end AlertRelay.Yaml
