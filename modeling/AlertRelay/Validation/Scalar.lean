import AlertRelay.Alert.Level
import AlertRelay.Number.Reading
import AlertRelay.Text.Blank
import AlertRelay.Text.Utf8
import AlertRelay.Validation.Checked

namespace AlertRelay.Validation

open AlertRelay.Number AlertRelay.Text AlertRelay.Alert

def checkText : Value → Checked String
  | .text s => .ok s
  | .bytes bs =>
    match Utf8.decode? bs with
    | some cs => .ok (String.ofList cs)
    | none => .complain .unreadableText
  | _ => .complain .text

/-- A text to be kept secret. No more is said of a value than that it is no text. -/
def checkSecret (v : Value) : Checked String :=
  match checkText v with
  | .ok s => .ok s
  | .problems _ => .complain .text

/-- The characters of a text, or of the bytes of one; of other bytes `some none`. -/
def spelling? : Value → Option (Option (List Char))
  | .text s => some (some s.toList)
  | .bytes bs => some (Utf8.decode? bs)
  | _ => none

def trueWords : List String := ["1", "true", "t", "yes", "y", "on"]

def falseWords : List String := ["0", "false", "f", "no", "n", "off"]

def truthOfText? (cs : List Char) : Option Bool :=
  let word := String.ofList (cs.map Char.toLower)
  if trueWords.contains word then some true
  else if falseWords.contains word then some false
  else none

def truthOfInt? (n : Int) : Option Bool :=
  if n == 0 then some false else if n == 1 then some true else none

def wordBound : Int := 0x8000000000000000

def fitsWord (n : Int) : Bool := -wordBound ≤ n && n < wordBound

/-- The whole number of a value, of 64 bits and not the least of these. -/
def wholeOfDouble? (x : Double) : Option Int :=
  x.toInt?.bind fun n => if -wordBound < n && n < wordBound then some n else none

def orUnreadable {α : Type} (c : Complaint) : Option α → Checked α
  | some a => .ok a
  | none => .complain c

def checkTruth : Value → Checked Bool
  | .bool b => .ok b
  | .int n =>
    if fitsWord n then orUnreadable .unreadableTruth (truthOfInt? n) else .complain .truth
  | .float x =>
    match wholeOfDouble? x with
    | some n => orUnreadable .unreadableTruth (truthOfInt? n)
    | none => .complain .truth
  | v =>
    match spelling? v with
    | some cs? => orUnreadable .unreadableTruth (cs?.bind truthOfText?)
    | none => .complain .truth

def dropUnderscores? (cs : List Char) : Option (List Char) :=
  if cs.head? == some '_' || cs.getLast? == some '_' || (cs.zip cs.tail).contains ('_', '_') then
    none
  else some (cs.filter (· != '_'))

/-- A number from a text with white space around it, or else with underscores within it. -/
def numberOfText? (cs : List Char) : Option Double :=
  match Double.ofText? (trimBy isWhiteSpace cs) with
  | some x => some x
  | none => (dropUnderscores? cs).bind Double.ofText?

def checkNumber : Value → Checked Double
  | .bool b => .ok (Double.ofRatio false b.toNat 1)
  | .int n => orUnreadable .number (Double.ofInt? n)
  | .float x => .ok x
  | v =>
    match spelling? v with
    | some cs? => orUnreadable .unreadableNumber (cs?.bind numberOfText?)
    | none => .complain .number

def checkOptionalNumber : Value → Checked (Option Double)
  | .nil => .ok none
  | v => (checkNumber v).map some

def wholeTextLimit : Nat := 4300

def plainWhole? (cs : List Char) : Option Int :=
  let (negative, ds) :=
    match cs with
    | '-' :: r => (true, r)
    | r => (false, r)
  if ds.isEmpty || !ds.all Double.isDecimalDigit || (ds.head? == some '0' && 1 < ds.length) ||
      wholeTextLimit < cs.length then none
  else some (if negative then -Int.ofNat (natOfDigits ds) else Int.ofNat (natOfDigits ds))

/-- Drops zeros and underscores after a zero at the head, up to a digit or a minus. The last of
them stays before a point and at the end. -/
def afterZeros? (last : Char) : List Char → Option (List Char)
  | [] => some [last]
  | c :: r =>
    if c == '0' || c == '_' then afterZeros? c r
    else if c == '.' then some (last :: c :: r)
    else if Double.isDecimalDigit c || c == '-' then some (c :: r)
    else none

def dropLeadingZeros? : List Char → Option (List Char)
  | [] => none
  | c :: r =>
    if c == '0' then afterZeros? c r
    else if Double.isDecimalDigit c || c == '-' then some (c :: r)
    else none

/-- Drops a point and the zeros after it, at least one, if nothing else follows. -/
def dropFraction (cs : List Char) : List Char :=
  let fraction := (cs.dropWhile (· != '.')).drop 1
  if !fraction.isEmpty && fraction.all (· == '0') then cs.takeWhile (· != '.') else cs

/-- A number without its sign, and before it the sign to put back: a plus is left out. No second
sign may follow. -/
def takeSign? : List Char → Option (List Char × List Char)
  | '+' :: '-' :: _ => none
  | '-' :: '-' :: _ => none
  | '+' :: r => some ([], r)
  | '-' :: r => some (['-'], r)
  | r => some ([], r)

/-- A whole number as it may be written besides its plain form: with a plus sign, zeros at the
head, underscores between digits, zeros after a point. -/
def looseWhole? (cs : List Char) : Option Int := do
  let (sign, cs) ← takeSign? cs
  let cs ← dropLeadingZeros? cs
  let cs := dropFraction cs
  plainWhole? (sign ++ (dropUnderscores? cs).getD cs)

def wholeOfText? (cs : List Char) : Option Int :=
  let cs := trimBy isWhiteSpace cs
  (plainWhole? cs).or (looseWhole? cs)

def wholeNumber? : Value → Option Int
  | .bool b => some (if b then 1 else 0)
  | .int n => some n
  | .float x => wholeOfDouble? x
  | v =>
    match spelling? v with
    | some cs? => cs?.bind wholeOfText?
    | none => none

def checkLevel (v : Value) : Checked Level :=
  match wholeNumber? v with
  | some n =>
    if fitsWord n then orUnreadable .level (Level.ofInt? n) else .complain .hugeInteger
  | none => .complain .level

def checkValues : Value → Checked Entries
  | .map entries => .ok entries
  | _ => .complain .map

def checkTexts : Value → Checked (List (String × String))
  | .map entries =>
    Checked.all (fun e => ((checkText e.2).within e.1).map fun s => (e.1, s)) entries
  | _ => .complain .map

end AlertRelay.Validation
