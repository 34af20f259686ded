import AlertRelay.Text.Hex
import AlertRelay.Yaml.Moment

namespace AlertRelay.Yaml

open AlertRelay.Text

def coreTag (name : String) : String := "tag:yaml.org,2002:" ++ name

def strTag : String := coreTag "str"

def seqTag : String := coreTag "seq"

def mapTag : String := coreTag "map"

def mergeTag : String := coreTag "merge"

def valueTag : String := coreTag "value"

def truthWords : List String := ["yes", "no", "true", "false", "on", "off"]

/-- A word in small letters, in capitals, or with one capital at the start. -/
def isCasedWord (words : List String) (cs : List Char) : Bool :=
  words.any fun w =>
    let small := w.toList
    let capitals := small.map Char.toUpper
    cs == small || cs == capitals || cs == capitals.take 1 ++ small.drop 1

def isNull (cs : List Char) : Bool := cs.isEmpty || cs == ['~'] || isCasedWord ["null"] cs

def dropSign : List Char → List Char
  | '-' :: r => r
  | '+' :: r => r
  | r => r

def startsWithDigit (cs : List Char) : Bool := cs.head?.any Char.isDigit

def isDigitOrUnderscore (c : Char) : Bool := c.isDigit || c == '_'

def isSixtieths (ends : List Char → Bool) : List Char → Bool
  | ':' :: a :: b :: r =>
    (a.isDigit && (sixtiethsEnd ends (b :: r))) ||
      ('0' ≤ a && a ≤ '5' && b.isDigit && sixtiethsEnd ends r)
  | [':', a] => a.isDigit && ends []
  | _ => false
where
  sixtiethsEnd (ends : List Char → Bool) (r : List Char) : Bool := ends r || isSixtieths ends r

def isInteger (cs : List Char) : Bool :=
  match dropSign cs with
  | '0' :: 'b' :: r => !r.isEmpty && r.all fun c => c == '0' || c == '1' || c == '_'
  | '0' :: 'x' :: r => !r.isEmpty && r.all fun c => isHex c || c == '_'
  | '0' :: r => r.all fun c => ('0' ≤ c && c ≤ '7') || c == '_'
  | r =>
    startsWithDigit r &&
      match r.dropWhile isDigitOrUnderscore with
      | [] => true
      | r => isSixtieths List.isEmpty r

def isExponent : List Char → Bool
  | e :: s :: r =>
    (e == 'e' || e == 'E') && (s == '+' || s == '-') && !r.isEmpty && r.all Char.isDigit
  | _ => false

def isExponentOrEmpty (cs : List Char) : Bool := cs.isEmpty || isExponent cs

def isFraction (cs : List Char) : Bool :=
  let r := dropSign cs
  let tail := r.dropWhile isDigitOrUnderscore
  let afterPoint := (tail.drop 1).dropWhile isDigitOrUnderscore
  (startsWithDigit r && tail.head? == some '.' && isExponentOrEmpty afterPoint) ||
    (cs.head? == some '.' && startsWithDigit (cs.drop 1) &&
      isExponentOrEmpty (cs.drop 1 |>.dropWhile isDigitOrUnderscore)) ||
    (startsWithDigit r &&
      isSixtieths (fun t => t.head? == some '.' && (t.drop 1).all isDigitOrUnderscore) tail) ||
    (r.head? == some '.' && isCasedWord ["inf"] (r.drop 1)) ||
    [".nan", ".NaN", ".NAN"].contains (String.ofList cs)

/-- A date alone has to be written in full to count as one. -/
def isMoment (cs : List Char) : Bool :=
  match moment? cs with
  | some m => m.time.isSome || (m.month.length == 2 && m.day.length == 2)
  | none => false

def loneMarks : List (List Char) := [['!'], ['&'], ['*']]

/-- The tag of a plain scalar. A line feed at its end does not count. -/
def plainTag (text : List Char) : String :=
  let cs := if text == ['\n'] then text else dropLineFeed text
  if isCasedWord truthWords cs then coreTag "bool"
  else if isFraction cs then coreTag "float"
  else if isInteger cs then coreTag "int"
  else if cs == "<<".toList then mergeTag
  else if isNull cs then coreTag "null"
  else if isMoment cs then coreTag "timestamp"
  else if cs == ['='] then valueTag
  else if loneMarks.contains cs then coreTag "yaml"
  else strTag

end AlertRelay.Yaml
