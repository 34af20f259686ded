import AlertRelay.Text.Blank
import AlertRelay.Yaml.Error

namespace AlertRelay.Yaml

structure Cursor where
  rest : List Char
  index : Nat
  line : Nat
  column : Nat

abbrev Read := StateT Cursor (Except Error)

def endMark : Char := '\x00'

def isBreak (c : Char) : Bool := c == '\n' || c == '\x85' || c == '\u2028' || c == '\u2029'

def isEnd (c : Char) : Bool := c == endMark

def isBreakOrEnd (c : Char) : Bool := isBreak c || isEnd c

def isGap (c : Char) : Bool := c == ' ' || c == '\t' || isBreakOrEnd c

def isSpaceOrBreak (c : Char) : Bool := c == ' ' || isBreakOrEnd c

namespace Cursor

def ofText (cs : List Char) : Cursor := ⟨cs, 0, 0, 0⟩

def look (c : Cursor) (k : Nat) : Char := (c.rest.drop k).headD endMark

/-- Passes one character. A byte order mark takes no column. -/
def next (c : Cursor) : Cursor :=
  match c.rest with
  | [] => c
  | ch :: rest =>
    if isBreak ch then ⟨rest, c.index + 1, c.line + 1, 0⟩
    else ⟨rest, c.index + 1, c.line, if ch == '\uFEFF' then c.column else c.column + 1⟩

def skip (c : Cursor) : Nat → Cursor
  | 0 => c
  | n + 1 => c.next.skip n

def atSeparator (c : Cursor) : Bool :=
  (Text.startsWith "---".toList c.rest || Text.startsWith "...".toList c.rest) && isGap (c.look 3)

end Cursor

namespace Read

def fail {α : Type} : Read α := throw .malformed

def peek (k : Nat := 0) : Read Char := do return (← get).look k

def skip (n : Nat) : Read Unit := modify (·.skip n)

def size : Read Nat := do return (← get).rest.length

def takeWhile (p : Char → Bool) : Read (List Char) := do
  let cs := (← get).rest.takeWhile p
  skip cs.length
  return cs

def skipWhile (p : Char → Bool) : Read Unit := do
  let _ ← takeWhile p

/-- Passes the end of a line, which counts as a line feed unless it is a separator of lines or
paragraphs. -/
def lineBreak : Read (List Char) := do
  let c ← peek
  if c == '\n' || c == '\x85' then
    skip 1
    return ['\n']
  else if isBreak c then
    skip 1
    return [c]
  else return []

def expect (p : Char → Bool) : Read Unit := do
  if !p (← peek) then fail

def restOfLine : Read Unit := do
  skipWhile (· == ' ')
  if (← peek) == '#' then skipWhile (!isBreakOrEnd ·)
  expect isBreakOrEnd
  let _ ← lineBreak

end Read

end AlertRelay.Yaml
