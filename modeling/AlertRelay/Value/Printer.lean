import AlertRelay.Number.Layout
import AlertRelay.Text.Quoted
import AlertRelay.Value.Basic

namespace AlertRelay

open AlertRelay.Number

/-- Whole numbers below `10 ^ 21` are written without a fraction, other numbers in their shortest
form. -/
def Number.Double.plainText (x : Double) : String :=
  match x with
  | .nan => "NaN"
  | .infinite s => if s then "-Inf" else "+Inf"
  | .finite .. =>
    match x.toInt? with
    | some n => if n.natAbs < powTen 21 then String.ofList (intDigits n) else x.text
    | none => x.text

namespace Value

def bracketMap (entries : List (String × String)) : String :=
  "map[" ++ " ".intercalate ((sortEntries entries).map fun e => e.1 ++ ":" ++ e.2) ++ "]"

mutual

/-- The text of a value. It is refused for an integer beyond the digit limit alone. -/
def print : Value → Except LimitError String
  | .nil => .ok "<nil>"
  | .missing => .ok "<no value>"
  | .bool b => .ok (if b then "true" else "false")
  | .int n => intText n
  | .float x => .ok x.plainText
  | .text s => .ok s
  | .bytes bs => .ok (Text.quotedBytes bs)
  | .list items => do
    let ts ← printList items
    return "[" ++ " ".intercalate ts ++ "]"
  | .map entries => do
    let es ← printEntries entries
    return bracketMap es
  | .labels entries => .ok (bracketMap entries)
  | .record id name task fields tags => do
    let es ← printEntries fields
    return "\x7b" ++ " ".intercalate [id, name, task, bracketMap es, bracketMap tags] ++ "\x7d"

def printList : List Value → Except LimitError (List String)
  | [] => .ok []
  | v :: rest => do
    let t ← print v
    let ts ← printList rest
    return t :: ts

def printEntries : List (String × Value) → Except LimitError (List (String × String))
  | [] => .ok []
  | (k, v) :: rest => do
    let t ← print v
    let es ← printEntries rest
    return (k, t) :: es

end

end Value

end AlertRelay
