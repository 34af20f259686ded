import AlertRelay.Text.Quoted

namespace AlertRelay.Json

open AlertRelay.Text

def unitEscape (n : Nat) : List Char := '\\' :: 'u' :: hex 4 n

def shortEscape? (c : Char) : Option (List Char) :=
  if c == '"' then some ['\\', '"']
  else if c == '\\' then some ['\\', '\\']
  else if c == '\n' then some ['\\', 'n']
  else if c == '\r' then some ['\\', 'r']
  else if c == '\t' then some ['\\', 't']
  else if c == '\x08' then some ['\\', 'b']
  else if c == '\x0c' then some ['\\', 'f']
  else none

def escapeChar (c : Char) : List Char :=
  match shortEscape? c with
  | some e => e
  | none => if c.toNat < 0x20 then unitEscape c.toNat else [c]

def units (c : Char) : List Nat :=
  if c.toNat < 0x10000 then [c.toNat]
  else
    let n := c.toNat - 0x10000
    [0xD800 + n / 0x400, 0xDC00 + n % 0x400]

def escapeCharAscii (c : Char) : List Char :=
  match shortEscape? c with
  | some e => e
  | none =>
    if 0x20 ≤ c.toNat && c.toNat < 0x7F then [c] else (units c).flatMap unitEscape

def quote (cs : List Char) : List Char := '"' :: cs.flatMap escapeChar ++ ['"']

/-- A text in quotes, in ASCII characters alone. -/
def quoteAscii (cs : List Char) : List Char := '"' :: cs.flatMap escapeCharAscii ++ ['"']

end AlertRelay.Json
