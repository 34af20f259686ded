import AlertRelay.Template.Lexer
import AlertRelay.Template.Run
import AlertRelay.Template.Tree

namespace AlertRelay

open AlertRelay.Number

structure Template where
  name : String
  source : String
  nodes : List Template.Node

namespace Template

structure ExecError where
  name : String
  line : Nat
  column : Nat
  excerpt : String
  cause : Cause
  deriving DecidableEq, Repr

def ExecError.message (e : ExecError) : String :=
  "template: " ++ e.name ++ ":" ++ toString e.line ++ ":" ++ toString e.column ++
    ": executing \"" ++ e.name ++ "\" at <" ++ e.excerpt ++ ">: " ++ e.cause.message

inductive Failure where
  | compile (e : CompileError)
  | exec (e : ExecError)
  | limit (e : LimitError)
  deriving DecidableEq, Repr

def Failure.message : Failure → String
  | .compile e => e.message
  | .exec e => e.message
  | .limit e => e.message

def flawAt (name : String) (source : List Char) (pos : Nat) (f : Flaw) : Failure :=
  .compile ⟨name, lineAt source pos, f⟩

def readNodes (name : String) (source : List Char) : Except Failure (List Node) :=
  match pieces source with
  | .error (.flaw pos f) => .error (flawAt name source pos f)
  | .error (.limit e) => .error (.limit e)
  | .ok ps =>
    match readTree source ps with
    | .error (pos, f) => .error (flawAt name source pos f)
    | .ok nodes => .ok nodes

def compile (name source : String) : Except Failure Template :=
  (readNodes name source.toList).map fun nodes => ⟨name, source, nodes⟩

def run (t : Template) (data : Value) : Run := runNodes data data t.nodes

def failure (t : Template) : Fault → Failure
  | .at site cause =>
    .exec
      { name := t.name
        line := lineAt t.source.toList site.pos
        column := columnAt t.source.toList site.pos
        excerpt := String.ofList site.excerpt
        cause }
  | .limit e => .limit e

/-- Appends what a template writes to a buffer. -/
def execute (t : Template) (data : Value) (buffer : String) : String × Option Failure :=
  let r := t.run data
  (buffer ++ r.text, r.fault.map t.failure)

/-- Fills in a source: the buffer afterwards, and the text unless something fails. -/
def renderInto (buffer name source : String) (data : Value) : String × Except Failure String :=
  if source.isEmpty then (buffer, .ok "")
  else
    match compile name source with
    | .error e => ("", .error e)
    | .ok t =>
      match t.execute data "" with
      | (text, none) => (text, .ok text)
      | (text, some e) => (text, .error e)

def render (name source : String) (data : Value) : Except Failure String :=
  (renderInto "" name source data).2

end Template

end AlertRelay
