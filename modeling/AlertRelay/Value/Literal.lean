import AlertRelay.Number.Layout
import AlertRelay.Text.Quoted
import AlertRelay.Value.Basic

namespace AlertRelay.Value

open AlertRelay.Number AlertRelay.Text

def boolWord (b : Bool) : String := if b then "True" else "False"

def quotedEntries (entries : List (String × String)) : String :=
  "\x7b" ++ ", ".intercalate (entries.map fun e => quoted e.1 ++ ": " ++ e.2) ++ "\x7d"

mutual

def literal : Value → String
  | .nil => "None"
  | .missing => "<no value>"
  | .bool b => boolWord b
  | .int n => String.ofList (intDigits n)
  | .float x => x.text
  | .text s => quoted s
  | .bytes bs => quotedBytes bs
  | .list items => "[" ++ ", ".intercalate (literals items) ++ "]"
  | .map entries => quotedEntries (literalEntries entries)
  | .labels entries => quotedEntries (entries.map fun e => (e.1, quoted e.2))
  | .record id name task fields tags =>
    "TemplateData(ID=" ++ quoted id ++ ", Name=" ++ quoted name ++ ", TaskName=" ++ quoted task ++
      ", Fields=" ++ quotedEntries (literalEntries fields) ++
      ", Tags=" ++ quotedEntries (tags.map fun e => (e.1, quoted e.2)) ++ ")"

def literals : List Value → List String
  | [] => []
  | v :: rest => literal v :: literals rest

def literalEntries : List (String × Value) → List (String × String)
  | [] => []
  | (k, v) :: rest => (k, literal v) :: literalEntries rest

end

end AlertRelay.Value
