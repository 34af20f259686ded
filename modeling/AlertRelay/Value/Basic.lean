import AlertRelay.Number.Double

namespace AlertRelay

open AlertRelay.Number

/-- A value. Maps list their entries in the order in which these were given, each key once. -/
inductive Value where
  | nil
  /-- What a key stands for that a map does not have. -/
  | missing
  | bool (b : Bool)
  | int (n : Int)
  | float (x : Double)
  | text (s : String)
  /-- Bytes, as a file of settings may hold them. -/
  | bytes (bs : List Nat)
  | list (items : List Value)
  | map (entries : List (String × Value))
  /-- The tags of an alert, a map to texts in which an absent tag is the empty text. -/
  | labels (entries : List (String × String))
  | record (id name task : String) (fields : List (String × Value))
      (tags : List (String × String))
  deriving Inhabited

structure Record where
  id : String
  name : String
  task : String
  fields : List (String × Value)
  tags : List (String × String)

def Record.toValue (r : Record) : Value := .record r.id r.name r.task r.fields r.tags

namespace Value

def typeName : Value → String
  | .nil => "NoneType"
  | .missing => "_NoValue"
  | .bool _ => "bool"
  | .int _ => "int"
  | .float _ => "float"
  | .text _ => "str"
  | .bytes _ => "bytes"
  | .list _ => "list"
  | .map _ => "dict"
  | .labels _ => "_StringMap"
  | .record .. => "TemplateData"

/-- Whether a condition on the value holds: nothing, zero and whatever is empty count as false. -/
def truth : Value → Bool
  | .nil => false
  | .missing => false
  | .bool b => b
  | .int n => n != 0
  | .float (.finite _ m _) => m != 0
  | .float _ => true
  | .text s => !s.isEmpty
  | .bytes bs => !bs.isEmpty
  | .list items => !items.isEmpty
  | .map entries => !entries.isEmpty
  | .labels entries => !entries.isEmpty
  | .record .. => true

/-- Whether a value may be looked up as a key: those that can grow may not. -/
def isHashable : Value → Bool
  | .list _ | .map _ | .labels _ | .record .. => false
  | _ => true

def find? {α : Type} (key : String) (entries : List (String × α)) : Option α :=
  (entries.find? fun e => e.1 == key).map Prod.snd

def insertSorted {α : Type} (e : String × α) : List (String × α) → List (String × α)
  | [] => [e]
  | x :: rest => if x.1 ≤ e.1 then x :: insertSorted e rest else e :: x :: rest

def sortEntries {α : Type} : List (String × α) → List (String × α)
  | [] => []
  | e :: rest => insertSorted e (sortEntries rest)

end Value

end AlertRelay
