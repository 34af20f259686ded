import AlertRelay.Template.Error
import AlertRelay.Template.Function

namespace AlertRelay.Template

open AlertRelay.Number

inductive Cause where
  | nilField (name : String)
  | noField (name typeName : String)
  | notFunction
  | notIterable (text : String)
  | call (f : Builtin) (e : CallError)
  deriving DecidableEq, Repr

def Cause.message : Cause → String
  | .nilField name => "nil pointer evaluating interface \x7b\x7d." ++ name
  | .noField name t => "can't evaluate field " ++ name ++ " in type " ++ t
  | .notFunction => "can't give argument to non-function"
  | .notIterable text => "range can't iterate over " ++ text
  | .call f e => "error calling " ++ f.name ++ ": " ++ e.message

/-- Why a run ends early: at an action, or over an integer of too many digits. -/
inductive Fault where
  | at (site : Site) (cause : Cause)
  | limit (e : LimitError)
  deriving DecidableEq, Repr

/-- What a run has written, and why it ended if it did so early. -/
structure Run where
  text : String
  fault : Option Fault
  deriving DecidableEq, Repr

namespace Run

def write (s : String) : Run := ⟨s, none⟩

def fail (f : Fault) : Run := ⟨"", some f⟩

def append (a b : Run) : Run :=
  match a.fault with
  | some _ => a
  | none => ⟨a.text ++ b.text, b.fault⟩

def concat : List Run → Run
  | [] => write ""
  | r :: rest => r.append (concat rest)

end Run

def fieldOf (v : Value) (name : String) : Except Cause Value :=
  match v with
  | .record id n task fields tags =>
    if name == "ID" then .ok (.text id)
    else if name == "Name" then .ok (.text n)
    else if name == "TaskName" then .ok (.text task)
    else if name == "Fields" then .ok (.map fields)
    else if name == "Tags" then .ok (.labels tags)
    else .error (.noField name v.typeName)
  | .map entries => .ok ((Value.find? name entries).getD .missing)
  | .labels entries => .ok (((Value.find? name entries).map Value.text).getD .missing)
  | .nil | .missing => .error (.nilField name)
  | _ => .error (.noField name v.typeName)

def chainOf (v : Value) : List String → Except Cause Value
  | [] => .ok v
  | name :: names => do chainOf (← fieldOf v name) names

def call (f : Builtin) (vs : List Value) : Except Cause Value :=
  match f.apply vs with
  | .ok v => .ok v
  | .error e => .error (.call f e)

mutual

def Operand.value (root dot : Value) : Operand → Except Cause Value
  | .field fromRoot names => chainOf (if fromRoot then root else dot) names
  | .dot => .ok dot
  | .constant c => .ok c.toValue
  | .function f => call f []
  | .group p => p.value root dot

def operandValues (root dot : Value) : List Operand → Except Cause (List Value)
  | [] => .ok []
  | o :: rest => do
    let v ← o.value root dot
    let vs ← operandValues root dot rest
    return v :: vs

def Command.value (root dot : Value) (before : Option Value) : Command → Except Cause Value
  | .mk (.function f) arguments => do
    let vs ← operandValues root dot arguments
    call f (vs ++ before.toList)
  | .mk head arguments =>
    if arguments.isEmpty && before.isNone then head.value root dot else .error .notFunction

def commandValues (root dot v : Value) : List Command → Except Cause Value
  | [] => .ok v
  | c :: rest => do
    let v ← c.value root dot (some v)
    commandValues root dot v rest

def Pipeline.value (root dot : Value) : Pipeline → Except Cause Value
  | .mk first rest => do
    let v ← first.value root dot none
    commandValues root dot v rest

end

/-- The values that a block is repeated for, those of a map in the order of their keys. -/
def elements (site : Site) : Value → Except Fault (List Value)
  | .nil => .ok []
  | .missing => .ok []
  | .list items => .ok items
  | .map entries => .ok ((Value.sortEntries entries).map Prod.snd)
  | .labels entries => .ok ((Value.sortEntries entries).map fun e => .text e.2)
  | v =>
    match v.print with
    | .ok s => .error (.at site (.notIterable s))
    | .error e => .error (.limit e)

def withValue (site : Site) (v : Except Cause Value) (next : Value → Run) : Run :=
  match v with
  | .ok v => next v
  | .error cause => .fail (.at site cause)

def writeValue (v : Value) : Run :=
  match v.print with
  | .ok s => .write s
  | .error e => .fail (.limit e)

mutual

def Node.run (root dot : Value) : Node → Run
  | .text content => .write (String.ofList content)
  | .action site p => withValue site (p.value root dot) writeValue
  | .block keyword site p body otherwise =>
    withValue site (p.value root dot) fun v =>
      match keyword with
      | .cond => if v.truth then runNodes root dot body else runNodes root dot otherwise
      | .with => if v.truth then runNodes root v body else runNodes root dot otherwise
      | .range =>
        match elements site v with
        | .error f => .fail f
        | .ok [] => runNodes root dot otherwise
        | .ok vs => .concat (vs.map fun v => runNodes root v body)

def runNodes (root dot : Value) : List Node → Run
  | [] => .write ""
  | n :: rest => (n.run root dot).append (runNodes root dot rest)

end

end AlertRelay.Template
