import AlertRelay.Number.Decimal
import AlertRelay.Text.Quoted

namespace AlertRelay.Yaml

open AlertRelay.Text

inductive Error where
  | malformed
  | badInteger (base : Nat) (text : List Char)
  | badFloat (text : List Char)
  | badTruth (text : List Char)
  | badTime
  | timeOfMap
  | emptyNumber
  | powerTooLarge
  | yearRange (year : Nat)
  | monthRange
  | dayRange
  | hourRange
  | minuteRange
  | secondRange
  | zoneRange (minutes : Int)
  | codeRange
  | codeTooLarge
  | limit (e : Number.LimitError)
  deriving DecidableEq, Repr

def dayMinutes : Int := 1440

def zoneText (minutes : Int) : String :=
  let days := Int.fdiv minutes dayMinutes
  let seconds := (minutes - days * dayMinutes) * 60
  let parts :=
    (if days == 0 then [] else ["days=" ++ toString days]) ++
      (if seconds == 0 then [] else ["seconds=" ++ toString seconds])
  "datetime.timedelta(" ++ (if parts.isEmpty then "0" else ", ".intercalate parts) ++ ")"

/-- How much of a text in quotes is shown where an integer was expected. -/
def shownLength : Nat := 200

def Error.message : Error → String
  | .malformed => "malformed document"
  | .badInteger base cs =>
    "invalid literal for int() with base " ++ toString base ++ ": " ++
      String.ofList ((quoted (String.ofList cs)).toList.take shownLength)
  | .badFloat cs => "could not convert string to float: " ++ quoted (String.ofList cs)
  | .badTruth cs => quoted (String.ofList cs)
  | .badTime => "'NoneType' object has no attribute 'groupdict'"
  | .timeOfMap => "expected string or bytes-like object, got 'list'"
  | .emptyNumber => "string index out of range"
  | .powerTooLarge => "int too large to convert to float"
  | .yearRange year => "year " ++ toString year ++ " is out of range"
  | .monthRange => "month must be in 1..12"
  | .dayRange => "day is out of range for month"
  | .hourRange => "hour must be in 0..23"
  | .minuteRange => "minute must be in 0..59"
  | .secondRange => "second must be in 0..59"
  | .zoneRange minutes =>
    "offset must be a timedelta strictly between -timedelta(hours=24) and timedelta(hours=24), not "
      ++ zoneText minutes ++ "."
  | .codeRange => "chr() arg not in range(0x110000)"
  | .codeTooLarge => "Python int too large to convert to C int"
  | .limit e => e.message

end AlertRelay.Yaml
