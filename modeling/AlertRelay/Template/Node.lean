import AlertRelay.Template.Token

namespace AlertRelay.Template

inductive Builtin where
  | and | or | not | eq | ne | lt | le | gt | ge | index | len | print | printf | println
  deriving DecidableEq, Repr

namespace Builtin

def all : List Builtin :=
  [.and, .or, .not, .eq, .ne, .lt, .le, .gt, .ge, .index, .len, .print, .printf, .println]

def name : Builtin → String
  | .and => "and"
  | .or => "or"
  | .not => "not"
  | .eq => "eq"
  | .ne => "ne"
  | .lt => "lt"
  | .le => "le"
  | .gt => "gt"
  | .ge => "ge"
  | .index => "index"
  | .len => "len"
  | .print => "print"
  | .printf => "printf"
  | .println => "println"

def ofName? (s : String) : Option Builtin := all.find? (·.name == s)

end Builtin

mutual

inductive Operand where
  | field (root : Bool) (names : List String)
  | dot
  | constant (c : Constant)
  | function (f : Builtin)
  | group (p : Pipeline)

inductive Command where
  | mk (head : Operand) (arguments : List Operand)

inductive Pipeline where
  | mk (first : Command) (rest : List Command)

end

inductive Keyword where
  | cond
  | with
  | range
  deriving DecidableEq, Repr

namespace Keyword

def name : Keyword → String
  | .cond => "if"
  | .with => "with"
  | .range => "range"

def ofName? (s : String) : Option Keyword :=
  [Keyword.cond, .with, .range].find? (·.name == s)

/-- Whether an `else` of a block may go on with the block's own keyword. -/
def chains : Keyword → Bool
  | .range => false
  | _ => true

end Keyword

structure Site where
  pos : Nat
  excerpt : List Char
  deriving DecidableEq, Repr

inductive Node where
  | text (content : List Char)
  | action (site : Site) (p : Pipeline)
  | block (keyword : Keyword) (site : Site) (p : Pipeline) (body otherwise : List Node)

end AlertRelay.Template
