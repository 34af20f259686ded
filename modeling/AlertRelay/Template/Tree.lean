import AlertRelay.Template.Pipeline

namespace AlertRelay.Template

structure Frame where
  keyword : Keyword
  headPos : Nat
  site : Site
  condition : Pipeline
  /-- Whether the block goes on from an `else` of the block around it. -/
  chained : Bool
  before : List Node
  /-- The body, once the `else` part has begun. -/
  body? : Option (List Node)

def Frame.node (f : Frame) (nodes : List Node) : Node :=
  match f.body? with
  | none => .block f.keyword f.site f.condition nodes.reverse []
  | some body => .block f.keyword f.site f.condition body nodes.reverse

/-- A tree of which a part is read: the nodes of the innermost open block, last first, and the open
blocks, innermost first. -/
structure Growth where
  nodes : List Node
  frames : List Frame

namespace Growth

def start : Growth := ⟨[], []⟩

def push (g : Growth) (n : Node) : Growth := { g with nodes := n :: g.nodes }

/-- Closes the innermost block, and with a chained block also the one around it. -/
def closeBlock : List Node → List Frame → Growth
  | nodes, [] => ⟨nodes, []⟩
  | nodes, f :: frames =>
    if f.chained then closeBlock (f.node nodes :: f.before) frames
    else ⟨f.node nodes :: f.before, frames⟩

def excerpt (source : List Char) (start stop : Nat) : List Char :=
  (source.drop start).take (stop - start)

def openBlock (source : List Char) (g : Growth) (keyword : Keyword) (chained : Bool)
    (pos headPos : Nat) (items : List Placed) (close stop : Nat) : Except Located Growth :=
  if depthLimit ≤ g.frames.length then .error (headPos, .tooDeep)
  else if items.isEmpty then .error (headPos, .missingValue keyword.name)
  else do
    let p ← readPipeline (g.frames.length + 1) close items
    let f : Frame :=
      { keyword, headPos, site := ⟨pos, excerpt source pos stop⟩, condition := p, chained,
        before := g.nodes, body? := none }
    return ⟨[], f :: g.frames⟩

def expectClose : List Placed → Except Located Unit
  | [] => .ok ()
  | t :: _ => .error (t.pos, .unexpected t.item.description)

/-- The keyword with which items go on after an `else` of a block, with its position and the items
after it. -/
def continuation? (keyword : Keyword) : List Placed → Option (Nat × List Placed)
  | ⟨.word w, pos⟩ :: rest =>
    if w == keyword.name && keyword.chains then some (pos, rest) else none
  | _ => none

def readElse (source : List Char) (g : Growth) (pos : Nat) (rest : List Placed)
    (close stop : Nat) : Except Located Growth :=
  match g.frames with
  | [] => .error (pos, .unexpected (inDelims "else"))
  | f :: frames =>
    match f.body? with
    | some _ => .error (pos, .missingEnd f.keyword.name)
    | none =>
      let inElse : Growth := ⟨[], { f with body? := some g.nodes.reverse } :: frames⟩
      match continuation? f.keyword rest with
      | some (headPos, items) =>
        openBlock source inElse f.keyword true pos headPos items close stop
      | none => do
        expectClose rest
        return inElse

def readEnd (g : Growth) (pos : Nat) (rest : List Placed) : Except Located Growth :=
  match g.frames with
  | [] => .error (pos, .unexpected (inDelims "end"))
  | frames => do
    expectClose rest
    return closeBlock g.nodes frames

def refusedWords : List String := ["define", "template", "block", "break", "continue"]

def readAction (source : List Char) (g : Growth) (a : Action) : Except Located Growth := do
  let p ← readPipeline g.frames.length a.close a.items
  return g.push (.action ⟨a.pos, excerpt source a.pos a.stop⟩ p)

def step (source : List Char) (g : Growth) : Piece → Except Located Growth
  | .text _ content => .ok (g.push (.text content))
  | .action a =>
    match a.items with
    | ⟨.word w, pos⟩ :: rest =>
      if w == "end" then readEnd g pos rest
      else if w == "else" then readElse source g pos rest a.close a.stop
      else
        match Keyword.ofName? w with
        | some k => openBlock source g k false a.pos pos rest a.close a.stop
        | none =>
          if refusedWords.contains w then .error (pos, .unsupported (inDelims w))
          else readAction source g a
    | _ => readAction source g a

def finish (g : Growth) : Except Located (List Node) :=
  match g.frames with
  | [] => .ok g.nodes.reverse
  | f :: _ =>
    match f.body? with
    | none => .error (f.headPos, .unclosedBlock f.keyword.name)
    | some _ => .error (f.headPos, .missingEnd f.keyword.name)

end Growth

def readTree (source : List Char) (ps : List Piece) : Except Located (List Node) := do
  let g ← ps.foldlM (Growth.step source) .start
  g.finish

end AlertRelay.Template
