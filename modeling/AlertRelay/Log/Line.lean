import AlertRelay.Json.Text
import AlertRelay.Log.Entry
import AlertRelay.Text.Pad
import AlertRelay.Value.Literal

namespace AlertRelay.Log

open AlertRelay.Number AlertRelay.Text

inductive Format where
  | json
  | console
  deriving DecidableEq, Repr

def Format.named (name : String) : Format := if name == "console" then .console else .json

def quoteText (s : String) : String := String.ofList (Json.quoteAscii s.toList)

def doubleText (x : Double) : String :=
  match x with
  | .nan => "NaN"
  | .infinite s => if s then "-Infinity" else "Infinity"
  | .finite .. => x.text

def spacedObject (ms : List (String × String)) : String :=
  "\x7b" ++ ", ".intercalate (ms.map fun m => quoteText m.1 ++ ": " ++ m.2) ++ "\x7d"

mutual

/-- A value in JSON. What JSON has no form for is written as a text. -/
def jsonText : Value → String
  | .nil => "null"
  | .bool b => if b then "true" else "false"
  | .int n => String.ofList (intDigits n)
  | .float x => doubleText x
  | .text s => quoteText s
  | .list items => "[" ++ ", ".intercalate (jsonTexts items) ++ "]"
  | .map entries => spacedObject (jsonMembers entries)
  | .labels entries => spacedObject (entries.map fun e => (e.1, quoteText e.2))
  | .missing => quoteText (Value.literal .missing)
  | .bytes bs => quoteText (quotedBytes bs)
  | .record id name task fields tags => quoteText (Value.literal (.record id name task fields tags))

def jsonTexts : List Value → List String
  | [] => []
  | v :: rest => jsonText v :: jsonTexts rest

def jsonMembers : List (String × Value) → List (String × String)
  | [] => []
  | (k, v) :: rest => (k, jsonText v) :: jsonMembers rest

end

def needsQuotes (s : String) : Bool :=
  s.toList.any fun c => [' ', '\t', '=', '\r', '\n', '"', '\x27'].contains c

def bareText : Value → String
  | .text s => s
  | v => v.literal

def plainOrQuoted : Value → String
  | .text s => if needsQuotes s then quoted s else s
  | v => v.literal

/-- Names under which the log itself is told what to add to an entry. No field of such a name is
written. -/
def ownNames : List String := ["exc_info", "stack_info", "_record", "_from_structlog"]

def columnNames : List String :=
  ["", "timestamp", "level", "event", "logger", "logger_name", "stack", "exception"]

def ruler : String := String.ofList (List.replicate 79 '=')

namespace Entry

def stamped (e : Entry) (time : String) : Fields :=
  let fields := e.fields.filter fun f => !ownNames.contains f.1
  put (put fields "level" (.text e.level.name)) "timestamp" (.text time)

def jsonLine (e : Entry) (time : String) : String := jsonText (.map (e.stamped time))

def fieldText? (e : Entry) (name : String) : Option String :=
  match Value.find? name e.fields with
  | none | some .nil => none
  | some v => some (bareText v)

/-- What stands below the columns: the calls that led to an entry, and the failure that it is
about. -/
def below (e : Entry) : String :=
  match e.fieldText? "stack", e.fieldText? "exception" with
  | none, none => ""
  | some calls, none => "\n" ++ calls
  | none, some failure => "\n" ++ failure
  | some calls, some failure => "\n" ++ calls ++ "\n\n" ++ ruler ++ "\n\n" ++ failure

def consoleLine (e : Entry) (time : String) : String :=
  let fields := e.stamped time
  let column (name : String) (text : Value → String) : List String :=
    ((Value.find? name fields).map text).toList
  let padded (width : Nat) (s : String) := String.ofList (padRight width ' ' s.toList)
  let bracketed (s : String) := "[" ++ s ++ "]"
  let named (f : String × Value) := f.1 ++ "=" ++ plainOrQuoted f.2
  let rest := fields.filter fun f => !columnNames.contains f.1
  " ".intercalate
    (column "" (fun v => named ("", v)) ++ column "timestamp" bareText ++
      column "level" (bracketed <| padded 9 <| bareText ·) ++
      column "event" (padded 30 <| bareText ·) ++ column "logger" (bracketed <| bareText ·) ++
      column "logger_name" (bracketed <| bareText ·) ++ (Value.sortEntries rest).map named) ++
    e.below

def line (format : Format) (e : Entry) (time : String) : String :=
  match format with
  | .json => e.jsonLine time
  | .console => e.consoleLine time

end Entry

end AlertRelay.Log
