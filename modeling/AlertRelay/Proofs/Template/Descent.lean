import AlertRelay.Proofs.Template.Grammar

/-!
Reading a template by descent, from token to token. Each phrase has a reader that looks at the
tokens ahead of it and leaves the rest, which is never more than it was given. To look behind the
last token, and to look for an operand where none begins, are failures of their own.
-/

namespace AlertRelay.Template

open AlertRelay.Text

def Token.description : Token → String
  | .text _ content => quoted (String.ofList content)
  | .opening _ => "None"
  | .item t => t.item.description
  | .closing _ _ => closeDescription

def Token.word? : Token → Option String
  | .item ⟨.word w, _⟩ => some w
  | _ => none

def Token.endsCommand : Token → Bool
  | .item ⟨.pipe, _⟩ => true
  | .item ⟨.rightParen, _⟩ => true
  | .closing _ _ => true
  | _ => false

def Token.isPipe : Token → Bool
  | .item ⟨.pipe, _⟩ => true
  | _ => false

def Token.isClosing : Token → Bool
  | .closing _ _ => true
  | _ => false

/-- The pipeline of some commands, last first, and one more. -/
def Pipeline.ofCommands (commands : List Command) (c : Command) : Pipeline :=
  match commands.reverse with
  | [] => .mk c []
  | first :: rest => .mk first (rest ++ [c])

/-- Why a reader gives up. -/
inductive Halt where
  | flaw (e : Located)
  | pastEnd
  | stray (t : Token)

/-- What a reader comes to: what it read, and the tokens it left, `n` of them at most. -/
abbrev Attempt (α : Type) (n : Nat) := Except Halt { r : α × List Token // r.2.length ≤ n }

def Attempt.weaken {α : Type} {m n : Nat} (h : m ≤ n) (a : Attempt α m) : Attempt α n :=
  a.map fun r => ⟨r.1, Nat.le_trans r.2 h⟩

namespace Descent

/-- Expects a closing delimiter, and says where it ends. -/
def closing (ts : List Token) : Attempt Nat ts.length :=
  match ts with
  | [] => throw .pastEnd
  | .closing _ stop :: rest => pure ⟨(stop, rest), Nat.le_succ _⟩
  | t :: _ => throw (.flaw (t.pos, .unexpected t.description))

def rightParen (ts : List Token) : Attempt Unit ts.length :=
  match ts with
  | [] => throw .pastEnd
  | .item ⟨.rightParen, _⟩ :: rest => pure ⟨((), rest), Nat.le_succ _⟩
  | t :: _ => throw (.flaw (t.pos, .unexpected t.description))

mutual

def operand (d : Nat) (ts : List Token) : Attempt Operand (ts.length - 1) :=
  match ts with
  | [] => throw .pastEnd
  | .item ⟨.field root names, _⟩ :: rest => pure ⟨(.field root names, rest), Nat.le_refl _⟩
  | .item ⟨.dot, _⟩ :: rest => pure ⟨(.dot, rest), Nat.le_refl _⟩
  | .item ⟨.constant c, _⟩ :: rest => pure ⟨(.constant c, rest), Nat.le_refl _⟩
  | .item ⟨.leftParen, pos⟩ :: rest =>
    if depthLimit ≤ d then throw (.flaw (pos, .tooDeep))
    else do
      let ⟨(p, us), h⟩ ← pipeline (d + 1) .empty rest
      let ⟨((), vs), h'⟩ ← rightParen us
      pure ⟨(.group p, vs), Nat.le_trans h' h⟩
  | .item ⟨.word w, pos⟩ :: rest =>
    match Builtin.ofName? w with
    | some f => pure ⟨(.function f, rest), Nat.le_refl _⟩
    | none => throw (.flaw (pos, .unknownFunction w))
  | t :: _ => throw (.stray t)
termination_by (ts.length, 0)

/-- The command that begins with the operands of a draft. -/
def command (d : Nat) (s : Draft) (ts : List Token) : Attempt Command ts.length :=
  match ts with
  | [] => throw .pastEnd
  | t :: rest =>
    if t.endsCommand then
      match s.command? with
      | none => throw (.flaw (t.pos, .missingValue "command"))
      | some c => pure ⟨(c, t :: rest), Nat.le_refl _⟩
    else do
      let ⟨(o, us), h⟩ ← operand d (t :: rest)
      have hus : us.length ≤ rest.length := h
      (command d (s.push o) us).weaken (Nat.le_succ_of_le hus)
termination_by (ts.length, 1)

/-- The pipeline that begins with a draft. -/
def pipeline (d : Nat) (s : Draft) (ts : List Token) : Attempt Pipeline ts.length := do
  let ⟨(c, us), h⟩ ← command d s ts
  match hus : us with
  | [] => throw .pastEnd
  | t :: rest =>
    have hrest : rest.length < ts.length := by
      subst hus
      exact h
    if t.isPipe then (pipeline d ⟨c :: s.commands, []⟩ rest).weaken (Nat.le_of_lt hrest)
    else pure ⟨(.ofCommands s.commands c, t :: rest), hrest⟩
termination_by (ts.length, 2)

end

/-- A pipeline and the closing delimiter behind it. -/
def value (d : Nat) (ts : List Token) : Attempt (Pipeline × Nat) ts.length := do
  let ⟨(p, us), h⟩ ← pipeline d .empty ts
  let ⟨(stop, vs), h'⟩ ← closing us
  pure ⟨((p, stop), vs), Nat.le_trans h' h⟩

/-- Nodes, last first, that reach up to the word `end` or `else` of an action, or to the end. What
is left begins with that word. -/
structure Part where
  nodes : List Node
  term : Option (String × Nat)

/-- The beginning of a block. -/
structure Head where
  keyword : Keyword
  headPos : Nat
  site : Site
  condition : Pipeline

/-- A block that has its `else` part, up to its end. -/
def afterElse (head : Head) (body : List Node) (r : Part) (ts : List Token) :
    Attempt Node ts.length :=
  match r.term with
  | none => throw (.flaw (head.headPos, .missingEnd head.keyword.name))
  | some (w, pos) =>
    if w == "end" then
      match ts with
      | [] => throw .pastEnd
      | _ :: rest => do
        let ⟨(_, us), h⟩ ← closing rest
        pure ⟨(.block head.keyword head.site head.condition body r.nodes.reverse, us),
          Nat.le_succ_of_le h⟩
    else throw (.flaw (pos, .missingEnd head.keyword.name))

variable (source : List Char)

mutual

/-- Goes on after some nodes. -/
def nodes (d : Nat) (ns : List Node) (ts : List Token) : Attempt Part ts.length :=
  match ts with
  | [] => pure ⟨(⟨ns, none⟩, []), Nat.le_refl _⟩
  | .text _ content :: rest => (nodes d (.text content :: ns) rest).weaken (Nat.le_succ _)
  | [_] => throw .pastEnd
  | t :: head :: rest =>
    match head.word? with
    | none => (nodesAfterValue d ns t (head :: rest)).weaken (Nat.le_succ _)
    | some w =>
      if w == "end" || w == "else" then
        -- The word is left for the block around these nodes.
        pure ⟨(⟨ns, some (w, head.pos)⟩, head :: rest), Nat.le_succ _⟩
      else
        match Keyword.ofName? w with
        | some k => do
          let ⟨(n, us), h⟩ ← block d k t.pos head.pos rest
          have hus : us.length ≤ rest.length := h
          (nodes d (n :: ns) us).weaken (Nat.le_succ_of_le (Nat.le_succ_of_le hus))
        | none =>
          if Growth.refusedWords.contains w then
            throw (.flaw (head.pos, .unsupported (inDelims w)))
          else (nodesAfterValue d ns t (head :: rest)).weaken (Nat.le_succ _)
termination_by 4 * ts.length

/-- Goes on with the value that the tokens after `t` begin with. -/
def nodesAfterValue (d : Nat) (ns : List Node) (t : Token) (ts : List Token) :
    Attempt Part ts.length := do
  let ⟨((p, stop), us), h⟩ ← value d ts
  have hus : us.length ≤ ts.length := h
  (nodes d (.action ⟨t.pos, Growth.excerpt source t.pos stop⟩ p :: ns) us).weaken hus
termination_by 4 * ts.length + 1

/-- A block after its keyword. -/
def block (d : Nat) (k : Keyword) (pos headPos : Nat) (ts : List Token) :
    Attempt Node ts.length :=
  if depthLimit ≤ d then throw (.flaw (headPos, .tooDeep))
  else
    match ts with
    | [] => throw .pastEnd
    | t :: rest =>
      if t.isClosing then throw (.flaw (headPos, .missingValue k.name))
      else do
        let ⟨((p, stop), us), h⟩ ← value (d + 1) (t :: rest)
        have hus : us.length ≤ rest.length + 1 := h
        let ⟨(r, vs), hvs⟩ ← nodes (d + 1) [] us
        have hvs : vs.length ≤ us.length := hvs
        (afterBody (d + 1) ⟨k, headPos, ⟨pos, Growth.excerpt source pos stop⟩, p⟩ r vs).weaken
          (Nat.le_trans hvs hus)
termination_by 4 * ts.length + 3

/-- A block that has its body. -/
def afterBody (d : Nat) (head : Head) (r : Part) (ts : List Token) : Attempt Node ts.length :=
  match r.term with
  | none => throw (.flaw (head.headPos, .unclosedBlock head.keyword.name))
  | some (w, pos) =>
    match ts with
    | [] => throw .pastEnd
    | _ :: rest =>
      if w == "else" then
        match rest with
        | [] => throw .pastEnd
        | next :: rest =>
          if next.word? == some head.keyword.name && head.keyword.chains then do
            -- The block that follows the `else` takes the end of this one with it.
            let ⟨(n, us), h⟩ ← block d head.keyword pos next.pos rest
            pure ⟨(.block head.keyword head.site head.condition r.nodes.reverse [n], us),
              Nat.le_succ_of_le (Nat.le_succ_of_le h)⟩
          else do
            let ⟨(_, us), h⟩ ← closing (next :: rest)
            have hus : us.length ≤ rest.length + 1 := h
            let ⟨(r', vs), h'⟩ ← nodes d [] us
            (afterElse head r.nodes.reverse r' vs).weaken (Nat.le_succ_of_le (Nat.le_trans h' hus))
      else do
        let ⟨(_, us), h⟩ ← closing rest
        pure ⟨(.block head.keyword head.site head.condition r.nodes.reverse [], us),
          Nat.le_succ_of_le h⟩
termination_by 4 * ts.length + 2

end

def template (ts : List Token) : Except Halt (List Node) := do
  let ⟨(r, _), _⟩ ← nodes source 0 [] ts
  match r.term with
  | none => pure r.nodes.reverse
  | some (w, pos) => throw (.flaw (pos, .unexpected (inDelims w)))

end Descent

end AlertRelay.Template
