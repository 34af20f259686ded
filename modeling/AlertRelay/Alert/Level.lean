import AlertRelay.Number.Order
import AlertRelay.Value.Basic

namespace AlertRelay.Alert

open AlertRelay.Number

inductive Level where
  | ok
  | info
  | warning
  | critical
  deriving DecidableEq, Repr

namespace Level

def all : List Level := [.ok, .info, .warning, .critical]

def name : Level → String
  | .ok => "OK"
  | .info => "INFO"
  | .warning => "WARNING"
  | .critical => "CRITICAL"

def code : Level → Nat
  | .ok => 0
  | .info => 1
  | .warning => 2
  | .critical => 3

def ofName? (s : String) : Option Level := all.find? (·.name == s)

def ofInt? (n : Int) : Option Level := all.find? fun l => (l.code : Int) == n

def severity : Level → Nat
  | .ok => 5
  | .info => 5
  | .warning => 4
  | .critical => 1

def severityOfCode (n : Int) : Nat := ((ofInt? n).map severity).getD 0

end Level

/-- The severity of a value that counts as a level if it equals the level's code; zero for any
other. Values that cannot be looked up have none. -/
def severityOf (v : Value) : Option Nat :=
  if !v.isHashable then none
  else
    let code? : Option Int :=
      match v with
      | .bool b => some (if b then 1 else 0)
      | .int n => some n
      | .float x => x.toInt?
      | _ => none
    some ((code?.map Level.severityOfCode).getD 0)

end AlertRelay.Alert
