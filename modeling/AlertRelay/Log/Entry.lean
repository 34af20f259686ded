import AlertRelay.Value.Basic

namespace AlertRelay.Log

inductive Level where
  | debug
  | info
  | warning
  | error
  | critical
  deriving DecidableEq, Repr

namespace Level

def all : List Level := [.debug, .info, .warning, .error, .critical]

def name : Level → String
  | .debug => "debug"
  | .info => "info"
  | .warning => "warning"
  | .error => "error"
  | .critical => "critical"

def code : Level → Nat
  | .debug => 10
  | .info => 20
  | .warning => 30
  | .error => 40
  | .critical => 50

def ofName? (s : String) : Option Level := all.find? (·.name == s)

end Level

abbrev Fields := List (String × Value)

/-- Puts a value in the place of the one that has its name, or else at the end. -/
def put (fields : Fields) (name : String) (v : Value) : Fields :=
  match fields with
  | [] => [(name, v)]
  | (k, w) :: rest => if k == name then (name, v) :: rest else (k, w) :: put rest name v

def putAll (fields : Fields) (more : Fields) : Fields :=
  more.foldl (fun fs f => put fs f.1 f.2) fields

structure Entry where
  level : Level
  fields : Fields

/-- An entry about an event: what the log is bound to, then what is said, then the event. -/
def Entry.of (level : Level) (event : String) (context said : Fields) : Entry :=
  ⟨level, put (putAll context said) "event" (.text event)⟩

end AlertRelay.Log
