import AlertRelay.Proofs.Value.Agreement
import AlertRelay.Template.Run

/-!
Two runs of one tree, side by side. Where the data of both go together, and the functions and the
printing of values keep it so, the values of every pipeline go together and so do the runs.
-/

namespace AlertRelay.Template

/-!
What a tree is made of.
-/

mutual

/-- All operands but functions and groups, those within groups included, have a property. -/
def Operand.All (P : Operand → Prop) : Operand → Prop
  | .field root names => P (.field root names)
  | .dot => P .dot
  | .constant c => P (.constant c)
  | .function _ => True
  | .group p => p.All P

def allOperands (P : Operand → Prop) : List Operand → Prop
  | [] => True
  | o :: rest => o.All P ∧ allOperands P rest

def Command.All (P : Operand → Prop) : Command → Prop
  | .mk head arguments => head.All P ∧ allOperands P arguments

def allCommands (P : Operand → Prop) : List Command → Prop
  | [] => True
  | c :: rest => c.All P ∧ allCommands P rest

def Pipeline.All (P : Operand → Prop) : Pipeline → Prop
  | .mk first rest => first.All P ∧ allCommands P rest

end

/-- Whether the body of a block has a current value of its own. -/
def Keyword.rebinds : Keyword → Bool
  | .cond => false
  | .with => true
  | .range => true

mutual

/-- All operands of a node have a property. It may depend on whether the current value is one that
a block around the operand gave its body. -/
def Node.All (P : Bool → Operand → Prop) (inner : Bool) : Node → Prop
  | .text _ => True
  | .action _ p => p.All (P inner)
  | .block keyword _ p body otherwise =>
    p.All (P inner) ∧ allNodes P (inner || keyword.rebinds) body ∧ allNodes P inner otherwise

def allNodes (P : Bool → Operand → Prop) (inner : Bool) : List Node → Prop
  | [] => True
  | n :: rest => n.All P inner ∧ allNodes P inner rest

end

mutual

theorem Operand.all_of_forall {P : Operand → Prop} (h : ∀ o, P o) (o : Operand) : o.All P :=
  match o with
  | .field _ _ => h _
  | .dot => h _
  | .constant _ => h _
  | .function _ => trivial
  | .group p => p.all_of_forall h

theorem allOperands_of_forall {P : Operand → Prop} (h : ∀ o, P o) (os : List Operand) :
    allOperands P os :=
  match os with
  | [] => trivial
  | o :: rest => ⟨o.all_of_forall h, allOperands_of_forall h rest⟩

theorem Command.all_of_forall {P : Operand → Prop} (h : ∀ o, P o) (c : Command) : c.All P :=
  match c with
  | .mk head arguments => ⟨head.all_of_forall h, allOperands_of_forall h arguments⟩

theorem allCommands_of_forall {P : Operand → Prop} (h : ∀ o, P o) (cs : List Command) :
    allCommands P cs :=
  match cs with
  | [] => trivial
  | c :: rest => ⟨c.all_of_forall h, allCommands_of_forall h rest⟩

theorem Pipeline.all_of_forall {P : Operand → Prop} (h : ∀ o, P o) (p : Pipeline) : p.All P :=
  match p with
  | .mk first rest => ⟨first.all_of_forall h, allCommands_of_forall h rest⟩

end

mutual

theorem Node.all_of_forall {P : Bool → Operand → Prop} (h : ∀ b o, P b o) (inner : Bool)
    (n : Node) : n.All P inner :=
  match n with
  | .text _ => trivial
  | .action _ p => p.all_of_forall (h inner)
  | .block keyword _ p body otherwise =>
    ⟨p.all_of_forall (h inner), allNodes_of_forall h (inner || keyword.rebinds) body,
      allNodes_of_forall h inner otherwise⟩

theorem allNodes_of_forall {P : Bool → Operand → Prop} (h : ∀ b o, P b o) (inner : Bool)
    (ns : List Node) : allNodes P inner ns :=
  match ns with
  | [] => trivial
  | n :: rest => ⟨n.all_of_forall h inner, allNodes_of_forall h inner rest⟩

end

/-!
Two runs.
-/

/-- What makes two runs of a tree go together, if its operands have the property `P`. Two roots are
given; `D` says which current values go together, `R` which other values, and `S` which runs. -/
structure Parallel (root root' : Value) (P : Bool → Operand → Prop)
    (D : Bool → Value → Value → Prop) (R : Value → Value → Prop) (S : Run → Run → Prop) :
    Prop where
  enter {v w} : R v w → D true v w
  dot {b d d'} : P b .dot → D b d d' → R d d'
  constant {b c} : P b (.constant c) → R c.toValue c.toValue
  field {b fromRoot names d d'} : P b (.field fromRoot names) → D b d d' →
    Agrees Eq R (chainOf (if fromRoot then root else d) names)
      (chainOf (if fromRoot then root' else d') names)
  call {vs ws} (f) : List.Forall₂ R vs ws → Agrees Eq R (call f vs) (call f ws)
  truth {v w} : R v w → v.truth = w.truth
  steps {v w} (site) : R v w →
    Agrees (fun e f => S (.fail e) (.fail f)) (List.Forall₂ R) (elements site v) (elements site w)
  writeValue {v w} : R v w → S (writeValue v) (writeValue w)
  write (s) : S (.write s) (.write s)
  fail (site cause) : S (.fail (.at site cause)) (.fail (.at site cause))
  append {r r' s s'} : S r r' → S s s' → S (r.append s) (r'.append s')

namespace Parallel

variable {root root' : Value} {P : Bool → Operand → Prop} {D : Bool → Value → Value → Prop}
  {R : Value → Value → Prop} {S : Run → Run → Prop} {b : Bool} {d d' : Value}

mutual

theorem operand (h : Parallel root root' P D R S) (hd : D b d d') (o : Operand) (ho : o.All (P b)) :
    Agrees Eq R (o.value root d) (o.value root' d') :=
  match o with
  | .field _ _ => h.field ho hd
  | .dot => .ok (h.dot ho hd)
  | .constant _ => .ok (h.constant ho)
  | .function f => h.call f .nil
  | .group p => h.pipeline hd p ho

theorem operands (h : Parallel root root' P D R S) (hd : D b d d') (os : List Operand)
    (ho : allOperands (P b) os) :
    Agrees Eq (List.Forall₂ R) (operandValues root d os) (operandValues root' d' os) :=
  match os with
  | [] => .ok .nil
  | o :: rest =>
    (h.operand hd o ho.1).bind fun _ _ hv =>
      (h.operands hd rest ho.2).bind fun _ _ hvs => .ok (.cons hv hvs)

theorem command (h : Parallel root root' P D R S) (hd : D b d d')
    {before before' : Option Value} (hb : Option.Rel R before before') (c : Command)
    (hc : c.All (P b)) :
    Agrees Eq R (c.value root d before) (c.value root' d' before') :=
  match c with
  | .mk head arguments => by
    have hrest : Agrees Eq R
        (if arguments.isEmpty && before.isNone then head.value root d else .error .notFunction)
        (if arguments.isEmpty && before'.isNone then head.value root' d'
          else .error .notFunction) := by
      have hnone : before'.isNone = before.isNone := by cases hb <;> rfl
      rw [hnone]
      split
      · exact h.operand hd head hc.1
      · exact .error rfl
    -- Only a function takes arguments; whatever else heads a command stands alone.
    cases head with
    | function f =>
      have hbefore : List.Forall₂ R before.toList before'.toList := by
        cases hb with
        | some hv => exact .cons hv .nil
        | none => exact .nil
      rw [Command.value, Command.value]
      exact (h.operands hd arguments hc.2).bind fun _ _ hvs =>
        h.call f (List.rel_append hvs hbefore)
    | field _ _ | dot | constant _ | group _ => exact hrest

theorem commands (h : Parallel root root' P D R S) (hd : D b d d') {v w : Value} (hv : R v w)
    (cs : List Command) (hc : allCommands (P b) cs) :
    Agrees Eq R (commandValues root d v cs) (commandValues root' d' w cs) :=
  match cs with
  | [] => .ok hv
  | c :: rest =>
    (h.command hd (.some hv) c hc.1).bind fun _ _ hv => h.commands hd hv rest hc.2

theorem pipeline (h : Parallel root root' P D R S) (hd : D b d d') (p : Pipeline)
    (hp : p.All (P b)) :
    Agrees Eq R (p.value root d) (p.value root' d') :=
  match p with
  | .mk first rest =>
    (h.command hd .none first hp.1).bind fun _ _ hv => h.commands hd hv rest hp.2

end

theorem withValue (h : Parallel root root' P D R S) (site : Site) {x y : Except Cause Value}
    (hxy : Agrees Eq R x y) {next next' : Value → Run}
    (hn : ∀ v w, R v w → S (next v) (next' w)) :
    S (withValue site x next) (withValue site y next') := by
  cases hxy with
  | ok hv => exact hn _ _ hv
  | error he =>
    subst he
    exact h.fail site _

theorem concat (h : Parallel root root' P D R S) {f g : Value → Run} {vs ws : List Value}
    (hvs : List.Forall₂ R vs ws) (hfg : ∀ v w, R v w → S (f v) (g w)) :
    S (.concat (vs.map f)) (.concat (ws.map g)) := by
  induction hvs with
  | nil => exact h.write ""
  | cons hx _ ih => exact h.append (hfg _ _ hx) ih

mutual

theorem node (h : Parallel root root' P D R S) {b : Bool} {d d' : Value} (hd : D b d d') (n : Node)
    (hn : n.All P b) :
    S (n.run root d) (n.run root' d') :=
  match n with
  | .text _ => h.write _
  | .action site p => h.withValue site (h.pipeline hd p hn) fun _ _ => h.writeValue
  | .block keyword site p body otherwise => by
    obtain ⟨hp, hbody, hotherwise⟩ := hn
    -- The condition counts alike in both runs, so both go on with the same body.
    refine h.withValue site (h.pipeline hd p hp) fun v w hv => ?_
    have helse := h.nodes hd otherwise hotherwise
    cases keyword with
    | cond =>
      rw [Keyword.rebinds, Bool.or_false] at hbody
      dsimp only
      rw [h.truth hv]
      split
      · exact h.nodes hd body hbody
      · exact helse
    | «with» =>
      rw [Keyword.rebinds, Bool.or_true] at hbody
      dsimp only
      rw [h.truth hv]
      split
      · exact h.nodes (h.enter hv) body hbody
      · exact helse
    | range =>
      rw [Keyword.rebinds, Bool.or_true] at hbody
      have hsteps := h.steps site hv
      dsimp only
      generalize elements site v = x, elements site w = y at hsteps
      cases hsteps with
      | error hf => exact hf
      | ok hvs =>
        cases hvs with
        | nil => exact helse
        | cons hx hxs =>
          exact h.concat (.cons hx hxs) fun _ _ hv => h.nodes (h.enter hv) body hbody

theorem nodes (h : Parallel root root' P D R S) {b : Bool} {d d' : Value} (hd : D b d d')
    (ns : List Node) (hns : allNodes P b ns) :
    S (runNodes root d ns) (runNodes root' d' ns) :=
  match ns with
  | [] => h.write ""
  | n :: rest => h.append (h.node hd n hns.1) (h.nodes hd rest hns.2)

end

end Parallel

end AlertRelay.Template
