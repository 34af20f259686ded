import AlertRelay.Json.Text
import AlertRelay.Number.Reading
import AlertRelay.Text.Blank

namespace AlertRelay.Json

open AlertRelay.Number AlertRelay.Number.Double AlertRelay.Text

/-- A JSON value. Numbers stay as they are written; an object may name a member more than once. -/
inductive Tree where
  | null
  | truth (b : Bool)
  | number (written : List Char)
  | text (s : List Char)
  | list (items : List Tree)
  | object (members : List (List Char × Tree))

def escaped? (c : Char) : Option Char :=
  if c == '"' || c == '\\' || c == '/' then some c
  else if c == 'b' then some '\x08'
  else if c == 'f' then some '\x0c'
  else if c == 'n' then some '\n'
  else if c == 'r' then some '\r'
  else if c == 't' then some '\t'
  else none

def hexNumber (cs : List Char) : Nat := cs.foldl (fun n c => 16 * n + hexValue c) 0

/-- The units of a text up to the quote that closes it, and the rest. A unit is a code point or
one half of a surrogate pair. -/
def readUnits : List Char → Option (List Nat × List Char)
  | [] => none
  | '"' :: r => some ([], r)
  | '\\' :: 'u' :: a :: b :: c :: d :: r =>
    if [a, b, c, d].all isHex then
      (readUnits r).map fun (us, r) => (hexNumber [a, b, c, d] :: us, r)
    else none
  | '\\' :: c :: r =>
    (escaped? c).bind fun e => (readUnits r).map fun (us, r) => (e.toNat :: us, r)
  | c :: r =>
    if c == '\\' || c.toNat < 0x20 then none
    else (readUnits r).map fun (us, r) => (c.toNat :: us, r)

/-- Joins the two halves of surrogate pairs. A half on its own is no character, and U+FFFD stands in
its place. -/
def joinUnits : List Nat → List Char
  | [] => []
  | [n] => [if n.isValidChar then Char.ofNat n else '\ufffd']
  | n :: m :: rest =>
    if 0xD800 ≤ n && n < 0xDC00 && 0xDC00 ≤ m && m < 0xE000 then
      Char.ofNat (0x10000 + 0x400 * (n - 0xD800) + (m - 0xDC00)) :: joinUnits rest
    else (if n.isValidChar then Char.ofNat n else '\ufffd') :: joinUnits (m :: rest)

def readText (cs : List Char) : Option (List Char × List Char) :=
  (readUnits cs).map fun (us, r) => (joinUnits us, r)

def fractionOf : List Char → List Char
  | '.' :: r =>
    let digits := r.takeWhile isDecimalDigit
    if digits.isEmpty then [] else '.' :: digits
  | _ => []

def exponentOf : List Char → List Char
  | [] => []
  | e :: r =>
    let sign := r.takeWhile fun c => c == '+' || c == '-'
    let digits := (r.drop sign.length).takeWhile isDecimalDigit
    if (e == 'e' || e == 'E') && sign.length ≤ 1 && !digits.isEmpty then e :: sign ++ digits else []

def wholeOf : List Char → List Char
  | '0' :: _ => ['0']
  | cs => cs.takeWhile isDecimalDigit

/-- A number and the rest. A whole number beyond the digit limit is refused. -/
def readNumber (cs : List Char) : Option (List Char × List Char) :=
  let sign := if cs.head? == some '-' then ['-'] else []
  let r := cs.drop sign.length
  let whole := wholeOf r
  let fraction := fractionOf (r.drop whole.length)
  let r := (r.drop whole.length).drop fraction.length
  let exponent := exponentOf r
  if whole.isEmpty then none
  else if fraction.isEmpty && exponent.isEmpty && digitLimit < whole.length then none
  else some (sign ++ whole ++ fraction ++ exponent, r.drop exponent.length)

def words : List (String × Tree) :=
  [("null", .null), ("true", .truth true), ("false", .truth false),
    ("NaN", .number "NaN".toList), ("Infinity", .number "Infinity".toList),
    ("-Infinity", .number "-Infinity".toList)]

def readPlain (cs : List Char) : Option (Tree × List Char) :=
  match words.find? fun w => startsWith w.1.toList cs with
  | some (w, t) => some (t, cs.drop w.length)
  | none => (readNumber cs).map fun (n, r) => (.number n, r)

def skipBlanks (cs : List Char) : List Char := cs.dropWhile isBlank

mutual

/-- The value at the head of a text, and the rest. One unit of fuel for each character is enough.
Values may nest as deep as they like: the stack of a reader is taken to hold them. -/
def readTree (fuel : Nat) (cs : List Char) : Option (Tree × List Char) :=
  match fuel with
  | 0 => none
  | fuel + 1 =>
    match cs with
    | '"' :: r => (readText r).map fun (s, r) => (.text s, r)
    | '[' :: r =>
      match skipBlanks r with
      | ']' :: r => some (.list [], r)
      | r => (readItems fuel r).map fun (ts, r) => (.list ts, r)
    | '\x7b' :: r =>
      match skipBlanks r with
      | '\x7d' :: r => some (.object [], r)
      | r => (readMembers fuel r).map fun (ms, r) => (.object ms, r)
    | _ => readPlain cs

def readItems (fuel : Nat) (cs : List Char) : Option (List Tree × List Char) :=
  match fuel with
  | 0 => none
  | fuel + 1 =>
    (readTree fuel cs).bind fun (t, r) =>
      match skipBlanks r with
      | ',' :: r => (readItems fuel (skipBlanks r)).map fun (ts, r) => (t :: ts, r)
      | ']' :: r => some ([t], r)
      | _ => none

def readMember (fuel : Nat) (cs : List Char) : Option ((List Char × Tree) × List Char) :=
  match fuel with
  | 0 => none
  | fuel + 1 =>
    match cs with
    | '"' :: r =>
      (readText r).bind fun (key, r) =>
        match skipBlanks r with
        | ':' :: r => (readTree fuel (skipBlanks r)).map fun (t, r) => ((key, t), r)
        | _ => none
    | _ => none

def readMembers (fuel : Nat) (cs : List Char) : Option (List (List Char × Tree) × List Char) :=
  match fuel with
  | 0 => none
  | fuel + 1 =>
    (readMember fuel cs).bind fun (m, r) =>
      match skipBlanks r with
      | ',' :: r => (readMembers fuel (skipBlanks r)).map fun (ms, r) => (m :: ms, r)
      | '\x7d' :: r => some ([m], r)
      | _ => none

end

def read? (cs : List Char) : Option (Tree × List Char) := readTree (cs.length + 1) cs

namespace Tree

/-- The member of a name that an object gives last. -/
def member? (name : String) : Tree → Option Tree
  | .object ms => (ms.reverse.find? fun m => m.1 == name.toList).map Prod.snd
  | _ => none

end Tree

end AlertRelay.Json
