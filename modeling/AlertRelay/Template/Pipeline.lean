import AlertRelay.Template.Error
import AlertRelay.Template.Node

namespace AlertRelay.Template

abbrev Located := Nat × Flaw

def depthLimit : Nat := 100

/-- A pipeline of which a part is read: the finished commands, and the operands of the command at
hand, both last first. -/
structure Draft where
  commands : List Command
  operands : List Operand

namespace Draft

def empty : Draft := ⟨[], []⟩

def push (d : Draft) (o : Operand) : Draft := { d with operands := o :: d.operands }

def command? (d : Draft) : Option Command :=
  match d.operands.reverse with
  | [] => none
  | head :: arguments => some (.mk head arguments)

def pipeline? (d : Draft) : Option Pipeline :=
  d.command?.map fun c =>
    match d.commands.reverse with
    | [] => .mk c []
    | first :: rest => .mk first (rest ++ [c])

end Draft

/-- A draft, and those that wait for a parenthesis to close, innermost first. -/
structure Drafts where
  inner : Draft
  outer : List Draft

namespace Drafts

def start : Drafts := ⟨.empty, []⟩

def push (s : Drafts) (o : Operand) : Drafts := { s with inner := s.inner.push o }

def step (depth : Nat) (s : Drafts) (t : Placed) : Except Located Drafts :=
  match t.item with
  | .field root names => .ok (s.push (.field root names))
  | .dot => .ok (s.push .dot)
  | .constant c => .ok (s.push (.constant c))
  | .word name =>
    match Builtin.ofName? name with
    | some f => .ok (s.push (.function f))
    | none => .error (t.pos, .unknownFunction name)
  | .pipe =>
    match s.inner.command? with
    | some c => .ok { s with inner := ⟨c :: s.inner.commands, []⟩ }
    | none => .error (t.pos, .missingValue "command")
  | .leftParen =>
    if depthLimit ≤ depth + s.outer.length then .error (t.pos, .tooDeep)
    else .ok ⟨.empty, s.inner :: s.outer⟩
  | .rightParen =>
    match s.inner.pipeline? with
    | none => .error (t.pos, .missingValue "command")
    | some p =>
      match s.outer with
      | [] => .error (t.pos, .unexpected t.item.description)
      | d :: outer => .ok ⟨d.push (.group p), outer⟩

def finish (s : Drafts) (close : Nat) : Except Located Pipeline :=
  match s.inner.pipeline? with
  | none => .error (close, .missingValue "command")
  | some p => if s.outer.isEmpty then .ok p else .error (close, .unexpected closeDescription)

end Drafts

/-- The pipeline that some items make up, inside of `depth` blocks and closed at `close`. -/
def readPipeline (depth close : Nat) (items : List Placed) : Except Located Pipeline := do
  let s ← items.foldlM (Drafts.step depth) .start
  s.finish close

end AlertRelay.Template
