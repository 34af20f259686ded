import AlertRelay.Text.Composed
import AlertRelay.Text.Direction
import AlertRelay.Text.Joining
import AlertRelay.Text.Lower
import AlertRelay.Text.Punycode
import AlertRelay.Text.Quoted
import AlertRelay.Text.Script
import AlertRelay.Url.Letter

namespace AlertRelay.Url

open AlertRelay.Text

/-- Why a label or a name made of labels is refused. Positions count from one. -/
inductive LabelError where
  | tooLong
  | empty
  | emptyName
  | nameTooLong
  | notComposed
  | hyphensInside
  | hyphenAtEnd
  | markAtStart
  | joiner (code pos : Nat) (label : List Nat)
  | afterNameless (code pos : Nat) (label : List Nat)
  | bound (code pos : Nat) (label : List Nat)
  | letter (code pos : Nat) (label : List Nat)
  | unknownDirection (label : List Nat) (pos : Nat)
  | firstDirection (label : List Nat)
  | directionToLeft (pos : Nat)
  | directionToRight (pos : Nat)
  | mixedNumbers
  | lastDirection
  | noContent
  | wireHyphen
  | badWire
  | wireForm
  deriving DecidableEq, Repr

def codeText (n : Nat) : String :=
  let ds := (Nat.toDigits 16 n).map Char.toUpper
  "U+" ++ String.ofList (List.replicate (4 - ds.length) '0' ++ ds)

def labelText (label : List Nat) : String := String.ofList (quotedCodes label)

def LabelError.message : LabelError → String
  | .tooLong => "Label too long"
  | .empty => "Empty Label"
  | .emptyName => "Empty domain"
  | .nameTooLong => "Domain too long"
  | .notComposed => "Label must be in Normalization Form C"
  | .hyphensInside => "Label has disallowed hyphens in 3rd and 4th position"
  | .hyphenAtEnd => "Label must not start or end with a hyphen"
  | .markAtStart => "Label begins with an illegal combining character"
  | .joiner code pos label =>
    "Joiner " ++ codeText code ++ " not allowed at position " ++ toString pos ++ " in " ++
      labelText label
  | .afterNameless code pos label =>
    "Unknown codepoint adjacent to joiner " ++ codeText code ++ " at position " ++ toString pos ++
      " in " ++ labelText label
  | .bound code pos label =>
    "Codepoint " ++ codeText code ++ " not allowed at position " ++ toString pos ++ " in " ++
      labelText label
  | .letter code pos label =>
    "Codepoint " ++ codeText code ++ " at position " ++ toString pos ++ " of " ++
      labelText label ++ " not allowed"
  | .unknownDirection label pos =>
    "Unknown directionality in label " ++ labelText label ++ " at position " ++ toString pos
  | .firstDirection label =>
    "First codepoint in label " ++ labelText label ++ " must be directionality L, R or AL"
  | .directionToLeft pos =>
    "Invalid direction for codepoint at position " ++ toString pos ++ " in a right-to-left label"
  | .directionToRight pos =>
    "Invalid direction for codepoint at position " ++ toString pos ++ " in a left-to-right label"
  | .mixedNumbers => "Can not mix numeral types in a right-to-left label"
  | .lastDirection => "Label ends with illegal codepoint directionality"
  | .noContent => "Malformed A-label, no Punycode eligible content found"
  | .wireHyphen => "A-label must not end with a hyphen"
  | .badWire => "Invalid A-label"
  | .wireForm => "A-label is not the canonical Punycode encoding of its U-label"

def labelLimit : Nat := 254

def wireLimit : Nat := 63

def hyphen : Nat := 45

def joins (sorts : List Joining) (codes : List Nat) : Bool :=
  match codes.find? fun n => joining n != .transparent with
  | some n => sorts.contains (joining n)
  | none => false

def joinerFits (n : Nat) (before after : List Nat) : Bool :=
  let afterVirama :=
    match before with
    | m :: _ => combiningClass m == viramaClass
    | [] => false
  afterVirama || (n == 0x200C && joins [.left, .dual] before && joins [.right, .dual] after)

def isArabicDigit (n : Nat) : Bool := 0x660 ≤ n && n ≤ 0x669

def isPersianDigit (n : Nat) : Bool := 0x6F0 ≤ n && n ≤ 0x6F9

def smallEll : Nat := 0x6C

def boundFits (n : Nat) (before after label : List Nat) : Bool :=
  if n == 0xB7 then before.head? == some smallEll && after.head? == some smallEll
  else if n == 0x375 then after.head?.any isGreek
  else if n == 0x5F3 || n == 0x5F4 then before.head?.any isHebrew
  else if n == 0x30FB then label.any isJapanese
  else if isArabicDigit n then !label.any isPersianDigit
  else if isPersianDigit n then !label.any isArabicDigit
  else false

/-- Whether a character has no name, so that nothing is known of its place before a joiner: the
ideographs of Tangut have none, nor have characters that are not assigned. -/
def isNameless (n : Nat) : Bool :=
  (0x17000 ≤ n && n ≤ 0x187F7) || (0x18D00 ≤ n && n ≤ 0x18D08) || direction n == .unknown

/-- Checks the characters of a label one by one, `before` being those passed, latest first. -/
def checkLetters (label before : List Nat) : List Nat → Except LabelError Unit
  | [] => .ok ()
  | n :: after =>
    let pos := before.length + 1
    if isLetter n then checkLetters label (n :: before) after
    else if isJoiner n then
      if before.head?.any isNameless then .error (.afterNameless n pos label)
      else if joinerFits n before after then checkLetters label (n :: before) after
      else .error (.joiner n pos label)
    else if isBound n then
      if boundFits n before after label then checkLetters label (n :: before) after
      else .error (.bound n pos label)
    else .error (.letter n pos label)

/-- What is known of a label while its directions are checked: whether it may end here, and the
sort of its numbers. -/
structure Ending where
  valid : Bool
  numbers : Option Direction

def leftward : List Direction :=
  [.right, .arabicLetter, .arabicNumber, .europeanNumber, .europeanSeparator, .commonSeparator,
    .europeanTerminator, .neutral, .boundary, .mark]

def leftwardEnds : List Direction := [.right, .arabicLetter, .europeanNumber, .arabicNumber]

def rightward : List Direction :=
  [.left, .europeanNumber, .europeanSeparator, .commonSeparator, .europeanTerminator, .neutral,
    .boundary, .mark]

def rightwardEnds : List Direction := [.left, .europeanNumber]

def endsAfter (ends : List Direction) (d : Direction) (valid : Bool) : Bool :=
  if ends.contains d then true else if d == .mark then valid else false

def checkLeftward (pos : Nat) (e : Ending) : List Nat → Except LabelError Unit
  | [] => if e.valid then .ok () else .error .lastDirection
  | n :: rest =>
    let d := direction n
    let isNumber := d == .arabicNumber || d == .europeanNumber
    if !leftward.contains d then .error (.directionToLeft pos)
    else if isNumber && e.numbers.any (· != d) then .error .mixedNumbers
    else
      checkLeftward (pos + 1)
        ⟨endsAfter leftwardEnds d e.valid, if isNumber then some d else e.numbers⟩ rest

def checkRightward (pos : Nat) (valid : Bool) : List Nat → Except LabelError Unit
  | [] => if valid then .ok () else .error .lastDirection
  | n :: rest =>
    let d := direction n
    if !rightward.contains d then .error (.directionToRight pos)
    else checkRightward (pos + 1) (endsAfter rightwardEnds d valid) rest

def isLeftward (d : Direction) : Bool :=
  d == .right || d == .arabicLetter || d == .arabicNumber

/-- A label that holds a character written to the left keeps to rules about directions. -/
def checkDirections (label : List Nat) : Except LabelError Unit :=
  let ds := label.map direction
  match ds.findIdx? (· == .unknown) with
  | some k => .error (.unknownDirection label (k + 1))
  | none =>
    if !ds.any isLeftward then .ok ()
    else
      match ds with
      | .right :: _ | .arabicLetter :: _ => checkLeftward 1 ⟨false, none⟩ label
      | .left :: _ => checkRightward 1 false label
      | _ => .error (.firstDirection label)

def checkLabel (label : List Nat) : Except LabelError Unit :=
  if label.isEmpty then .error .empty
  else if labelLimit < label.length then .error .tooLong
  else if !isComposed label then .error .notComposed
  else if (label.drop 2).take 2 == [hyphen, hyphen] then .error .hyphensInside
  else if label.head? == some hyphen || label.getLast? == some hyphen then .error .hyphenAtEnd
  else if label.head?.any isMark then .error .markAtStart
  else do
    checkLetters label [] label
    checkDirections label

def wireMark : List Nat := "xn--".toList.map Char.toNat

def checkWire (label : List Nat) : Except LabelError Unit :=
  let label := label.map lowerCode
  if wireMark.isPrefixOf label then
    let code := label.drop wireMark.length
    if code.isEmpty then .error .noContent
    else if code.getLast? == some hyphen then .error .wireHyphen
    else
      match Punycode.decode code with
      | some label => if Punycode.encode label == code then checkLabel label else .error .wireForm
      | none => .error .badWire
  else checkLabel label

def wireLabel (label : List Nat) : Except LabelError (List Nat) := do
  let plain := label.all (· < 0x80)
  if plain then checkWire label else checkLabel label
  let wire := if plain then label else wireMark ++ Punycode.encode label
  if wireLimit < wire.length then throw .tooLong
  return wire

def isDot (n : Nat) : Bool := n == 0x2E || n == 0x3002 || n == 0xFF0E || n == 0xFF61

/-- The labels of a name. A dot at the end adds no label. -/
def labels (name : List Nat) : List (List Nat) × Bool :=
  let ls := splitDots name
  match ls.getLast? with
  | some [] => (ls.dropLast, true)
  | _ => (ls, false)
where
  splitDots : List Nat → List (List Nat)
    | [] => [[]]
    | n :: rest =>
      if isDot n then [] :: splitDots rest
      else
        match splitDots rest with
        | l :: ls => (n :: l) :: ls
        | [] => [[n]]

/-- The most characters of a name, without and with a dot at the end. -/
def nameLimit (dotted : Bool) : Nat := if dotted then 254 else 253

def labelsOf (name : List Nat) : Except LabelError (List (List Nat) × Bool) :=
  if nameLimit true < name.length then .error .nameTooLong
  else if name.isEmpty then .error .emptyName
  else .ok (labels name)

def wireName (name : List Nat) : Except LabelError (List Nat) := do
  let (ls, dotted) ← labelsOf name
  let wires ← ls.mapM wireLabel
  let wire := [0x2E].intercalate (wires ++ if dotted then [[]] else [])
  if nameLimit dotted < wire.length then throw .nameTooLong
  return wire

def checkWireName (name : List Nat) : Except LabelError Unit := do
  let (ls, _) ← labelsOf name
  ls.forM checkWire

end AlertRelay.Url
