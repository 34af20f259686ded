import AlertRelay.Value.Literal

namespace AlertRelay.Template

open AlertRelay.Number AlertRelay.Text

inductive Constant where
  | nil
  | bool (b : Bool)
  | int (n : Int)
  | float (x : Double)
  | text (s : String)
  deriving DecidableEq, Repr

def Constant.toValue : Constant → Value
  | .nil => .nil
  | .bool b => .bool b
  | .int n => .int n
  | .float x => .float x
  | .text s => .text s

inductive Item where
  | pipe
  | leftParen
  | rightParen
  | dot
  /-- A chain of names, looked up from the root of the data or from the current value. -/
  | field (root : Bool) (names : List String)
  | constant (c : Constant)
  | word (name : String)
  deriving DecidableEq, Repr

def fieldText (root : Bool) (names : List String) : String :=
  (if root then "$" else "") ++ String.join (names.map ("." ++ ·))

def Item.description : Item → String
  | .pipe => quoted "|"
  | .leftParen => quoted "("
  | .rightParen => quoted ")"
  | .dot => quoted "."
  | .field root names => fieldText root names
  | .constant c => c.toValue.literal
  | .word name => quoted name

structure Placed where
  item : Item
  pos : Nat
  deriving DecidableEq, Repr

/-- An action: where it starts, its items, where its closing delimiter is looked for, and where it
ends. -/
structure Action where
  pos : Nat
  items : List Placed
  close : Nat
  stop : Nat
  deriving DecidableEq, Repr

/-- A part of a source that counts; comments and trimmed blanks do not. -/
inductive Piece where
  | text (pos : Nat) (content : List Char)
  | action (a : Action)
  deriving DecidableEq, Repr

def leftDelim : List Char := ['\x7b', '\x7b']

def rightDelim : List Char := ['\x7d', '\x7d']

def closeDescription : String := "\"\x7d\x7d\""

def inDelims (word : String) : String := "\x7b\x7b" ++ word ++ "\x7d\x7d"

end AlertRelay.Template
