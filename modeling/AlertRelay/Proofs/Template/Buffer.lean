import AlertRelay.Template.Basic

/-!
A buffer in memory that several calls share. It has a position besides its contents, templates are
written into it piece by piece, and what a failed call has written stays. None of this shows in a
text that is filled in with it.
-/

namespace AlertRelay.Template

open AlertRelay.Text

/-- What a buffer holds, and where the next characters go. -/
structure Buffer where
  contents : List Char
  position : Nat
  deriving DecidableEq, Repr

namespace Buffer

/-- A buffer that holds a text, with its position at the end. -/
def holding (s : String) : Buffer := ⟨s.toList, s.toList.length⟩

def fresh : Buffer := holding ""

/-- Whether the next characters go behind all others. -/
def AtEnd (b : Buffer) : Prop := b.position = b.contents.length

def seek (b : Buffer) (n : Nat) : Buffer := { b with position := n }

/-- Drops what stands from the position on. The position stays. -/
def truncate (b : Buffer) : Buffer := { b with contents := b.contents.take b.position }

/-- Puts characters in the place of those at the position. A gap before it is filled up, unless
there is nothing to write. -/
def write (b : Buffer) (cs : List Char) : Buffer :=
  if cs.isEmpty then b
  else
    { contents := padRight b.position '\x00' (b.contents.take b.position) ++ cs ++
        b.contents.drop (b.position + cs.length)
      position := b.position + cs.length }

/-- Goes on writing unless something failed. -/
def andThen (r : Buffer × Option Fault) (next : Buffer → Buffer × Option Fault) :
    Buffer × Option Fault :=
  match r with
  | (b, none) => next b
  | (b, some f) => (b, some f)

/-- Writes something for each of some values, up to the first failure. -/
def inTurn (next : Value → Buffer → Buffer × Option Fault) :
    List Value → Buffer → Buffer × Option Fault
  | [], b => (b, none)
  | v :: vs, b => andThen (next v b) (inTurn next vs)

end Buffer

mutual

/-- Writes a part of a template, each text and each value for itself. -/
def Node.writeTo (root dot : Value) : Node → Buffer → Buffer × Option Fault
  | .text content, b => (b.write content, none)
  | .action site p, b =>
    match p.value root dot with
    | .error cause => (b, some (.at site cause))
    | .ok v =>
      match v.print with
      | .error e => (b, some (.limit e))
      | .ok s => (b.write s.toList, none)
  | .block keyword site p body otherwise, b =>
    match p.value root dot with
    | .error cause => (b, some (.at site cause))
    | .ok v =>
      match keyword with
      | .cond => if v.truth then writeNodes root dot body b else writeNodes root dot otherwise b
      | .with => if v.truth then writeNodes root v body b else writeNodes root dot otherwise b
      | .range =>
        match elements site v with
        | .error f => (b, some f)
        | .ok [] => writeNodes root dot otherwise b
        | .ok vs => Buffer.inTurn (fun v => writeNodes root v body) vs b

def writeNodes (root dot : Value) : List Node → Buffer → Buffer × Option Fault
  | [], b => (b, none)
  | n :: rest, b => Buffer.andThen (n.writeTo root dot b) (writeNodes root dot rest)

end

namespace Buffer

/-- Executes a template into the buffer. -/
def execute (b : Buffer) (t : Template) (data : Value) : Buffer × Option Failure :=
  let (b, f) := writeNodes data data t.nodes b
  (b, f.map t.failure)

/-- Fills in a source with the buffer, which is reset first, and takes the text from it. An empty
source does not touch it. -/
def render (b : Buffer) (name source : String) (data : Value) :
    Buffer × Except Failure String :=
  if source.isEmpty then (b, .ok "")
  else
    let b := (b.seek 0).truncate
    match compile name source with
    | .error e => (b, .error e)
    | .ok t =>
      match b.execute t data with
      | (b, none) => (b, .ok (String.ofList b.contents))
      | (b, some e) => (b, .error e)

variable {b : Buffer}

theorem atEnd_holding (s : String) : (holding s).AtEnd := rfl

theorem AtEnd.exists_holding (h : b.AtEnd) : ∃ s, b = holding s := by
  obtain ⟨contents, position⟩ := b
  have hposition : position = contents.length := h
  exact ⟨String.ofList contents, by simp [holding, hposition]⟩

theorem write_nil (b : Buffer) : b.write [] = b := rfl

theorem length_before (b : Buffer) :
    (padRight b.position '\x00' (b.contents.take b.position)).length = b.position := by
  unfold padRight
  simp only [List.length_append, List.length_take, List.length_replicate]
  omega

/-- What stands before the next characters after something was written. -/
theorem padRight_take (before written behind : List Char) :
    padRight (before.length + written.length) '\x00'
      ((before ++ written ++ behind).take (before.length + written.length)) =
        before ++ written := by
  rw [← List.length_append, List.take_left, padRight, Nat.sub_self]
  exact List.append_nil _

/-- Two texts that are written one after the other are written as one. -/
theorem write_write (b : Buffer) (xs ys : List Char) :
    (b.write xs).write ys = b.write (xs ++ ys) := by
  cases xs with
  | nil => rfl
  | cons x xs =>
    cases ys with
    | nil => rw [write_nil, List.append_nil]
    | cons y ys =>
      have hlength := length_before b
      unfold write
      simp only [List.isEmpty_cons, List.cons_append, Bool.false_eq_true, if_false, mk.injEq]
      rw [← List.cons_append]
      generalize x :: xs = written
      generalize y :: ys = added
      generalize padRight b.position '\x00' (b.contents.take b.position) = before at hlength ⊢
      rw [← hlength, padRight_take, ← List.drop_drop, ← List.length_append, List.drop_left,
        List.drop_drop, List.length_append]
      simp only [List.append_assoc, List.length_append, Nat.add_assoc, and_self]

/-- What is written at the end is added to all that was written before. -/
theorem write_holding (s t : String) : (holding s).write t.toList = holding (s ++ t) := by
  have hbehind : s.toList.drop (s.toList.length + t.toList.length) = [] :=
    List.drop_eq_nil_of_le (Nat.le_add_right ..)
  unfold write holding padRight
  dsimp only
  split
  · next he =>
    rw [String.toList_append, List.isEmpty_iff.mp he, List.append_nil]
  · rw [hbehind, List.take_length, Nat.sub_self]
    simp

/-- Writes the text of a run at once. -/
def receive (b : Buffer) (r : Run) : Buffer × Option Fault := (b.write r.text.toList, r.fault)

theorem receive_append (b : Buffer) (r s : Run) :
    b.receive (r.append s) = andThen (b.receive r) (·.receive s) := by
  obtain ⟨text, _ | f⟩ := r
  · simp [receive, Run.append, andThen, write_write]
  · rfl

theorem inTurn_eq {next : Value → Buffer → Buffer × Option Fault} {run : Value → Run}
    (h : ∀ v b, next v b = b.receive (run v)) (vs : List Value) (b : Buffer) :
    inTurn next vs b = b.receive (.concat (vs.map run)) := by
  induction vs generalizing b with
  | nil => rfl
  | cons v vs ih =>
    rw [inTurn, List.map_cons, Run.concat, receive_append, h]
    unfold andThen
    split
    · exact ih _
    · rfl

end Buffer

mutual

/-- A part of a template writes into a buffer what it writes at once. -/
theorem Node.writeTo_eq (root dot : Value) (n : Node) (b : Buffer) :
    n.writeTo root dot b = b.receive (n.run root dot) := by
  cases n with
  | text content => simp [Node.writeTo, Node.run, Buffer.receive, Run.write]
  | action site p =>
    rw [Node.writeTo, Node.run]
    cases p.value root dot with
    | error cause => rfl
    | ok v =>
      unfold withValue writeValue
      dsimp only
      cases v.print with
      | error e => rfl
      | ok s => rfl
  | block keyword site p body otherwise =>
    rw [Node.writeTo, Node.run]
    cases p.value root dot with
    | error cause => rfl
    | ok v =>
      unfold withValue
      dsimp only
      cases keyword with
      | cond =>
        dsimp only
        split
        · exact writeNodes_eq root dot body b
        · exact writeNodes_eq root dot otherwise b
      | «with» =>
        dsimp only
        split
        · exact writeNodes_eq root v body b
        · exact writeNodes_eq root dot otherwise b
      | range =>
        cases elements site v with
        | error f => rfl
        | ok vs =>
          cases vs with
          | nil => exact writeNodes_eq root dot otherwise b
          | cons v vs => exact Buffer.inTurn_eq (fun v b => writeNodes_eq root v body b) _ b

theorem writeNodes_eq (root dot : Value) (ns : List Node) (b : Buffer) :
    writeNodes root dot ns b = b.receive (runNodes root dot ns) := by
  cases ns with
  | nil => rfl
  | cons n ns =>
    rw [writeNodes, runNodes, Buffer.receive_append, Node.writeTo_eq]
    unfold Buffer.andThen
    split
    · exact writeNodes_eq root dot ns _
    · rfl

end

namespace Buffer

/-- Whether an execution fails does not depend on what is written into. -/
theorem execute_snd (b : Buffer) (t : Template) (data : Value) :
    (b.execute t data).2 = (t.execute data "").2 := by
  unfold execute
  rw [writeNodes_eq]
  rfl

theorem execute_holding (held : String) (t : Template) (data : Value) :
    (holding held).execute t data = (holding (t.execute data held).1, (t.execute data held).2) := by
  unfold execute
  rw [writeNodes_eq, receive, write_holding]
  rfl

theorem render_empty {source : String} (h : source.isEmpty = true) (b : Buffer) (name : String)
    (data : Value) : b.render name source data = (b, .ok "") := if_pos h

/-- A source that is not empty finds nothing left of what the buffer held. -/
theorem render_eq_fresh {source : String} (h : source.isEmpty = false) (b : Buffer) (name : String)
    (data : Value) : b.render name source data = fresh.render name source data := by
  unfold render
  rw [h]
  rfl

theorem render_holding (held name source : String) (data : Value) :
    (holding held).render name source data =
      (holding (renderInto held name source data).1, (renderInto held name source data).2) := by
  unfold render renderInto
  split
  · rfl
  · have hreset : ((holding held).seek 0).truncate = holding "" := rfl
    rw [hreset]
    cases compile name source with
    | error e => rfl
    | ok t =>
      dsimp only
      rw [execute_holding]
      obtain ⟨text, _ | e⟩ := t.execute data ""
      · simp [holding]
      · rfl

/-- Whatever a buffer holds, and wherever its position is, a source is filled in as it is with a
buffer of its own. -/
theorem render_snd (b : Buffer) (name source : String) (data : Value) :
    (b.render name source data).2 = Template.render name source data := by
  cases hs : source.isEmpty with
  | false =>
    rw [render_eq_fresh hs, fresh, render_holding]
    rfl
  | true =>
    rw [render_empty hs]
    unfold Template.render renderInto
    rw [hs]
    rfl

end Buffer

/-- A source that is filled in leaves its text. -/
theorem renderInto_fst_of_ok {held name source u : String} {data : Value}
    (hs : source.isEmpty = false) (h : (renderInto held name source data).2 = .ok u) :
    (renderInto held name source data).1 = u := by
  unfold renderInto at h ⊢
  simp only [hs, Bool.false_eq_true, if_false] at h ⊢
  cases hc : compile name source with
  | error e =>
    rw [hc] at h
    cases h
  | ok t =>
    rw [hc] at h
    dsimp only at h ⊢
    generalize t.execute data "" = result at h ⊢
    obtain ⟨text, _ | e⟩ := result
    · cases h
      rfl
    · cases h

/-- What is done with a shared buffer. A template is compiled without it. -/
inductive Call where
  | compile (name source : String)
  | execute (t : Template) (data : Value)
  | render (name source : String) (data : Value)

/-- What a call gives back. -/
inductive Answer where
  | compiled (r : Except Failure Template)
  | executed (f : Option Failure)
  | rendered (r : Except Failure String)

/-- What a call gives back where no buffer is shared. -/
def Call.alone : Call → Answer
  | .compile name source => .compiled (Template.compile name source)
  | .execute t data => .executed (t.execute data "").2
  | .render name source data => .rendered (Template.render name source data)

/-- What a buffer holds after a call, if it held a text. -/
def Call.into (held : String) : Call → String
  | .compile _ _ => held
  | .execute t data => (t.execute data held).1
  | .render name source data => (renderInto held name source data).1

/-- What a call leaves in a buffer: what an execution writes is added at the end, and a source that
is filled in takes the place of all that the buffer held. -/
def Call.Leaves (b now : Buffer) : Call → Prop
  | .compile _ _ => now = b
  | .execute t data => b.AtEnd → now.contents = b.contents ++ (t.execute data "").1.toList
  | .render name source data =>
    if source.isEmpty then now = b
    else ∀ u, Template.render name source data = .ok u → now.contents = u.toList

namespace Buffer

/-- The buffer after a call, and what the call gives back. -/
def call (b : Buffer) : Call → Buffer × Answer
  | .compile name source => (b, .compiled (compile name source))
  | .execute t data => ((b.execute t data).1, .executed (b.execute t data).2)
  | .render name source data =>
    ((b.render name source data).1, .rendered (b.render name source data).2)

/-- The buffer after some calls. -/
def after (b : Buffer) (calls : List Call) : Buffer := calls.foldl (fun b c => (b.call c).1) b

variable {b : Buffer}

theorem call_holding (held : String) (c : Call) :
    ((holding held).call c).1 = holding (c.into held) := by
  cases c with
  | compile name source => rfl
  | execute t data => rw [call, execute_holding, Call.into]
  | render name source data => rw [call, render_holding, Call.into]

/-- A call leaves the position at the end. -/
theorem AtEnd.call (h : b.AtEnd) (c : Call) : (b.call c).1.AtEnd := by
  obtain ⟨held, rfl⟩ := h.exists_holding
  rw [call_holding]
  exact atEnd_holding _

theorem AtEnd.after (h : b.AtEnd) (calls : List Call) : (b.after calls).AtEnd := by
  induction calls generalizing b with
  | nil => exact h
  | cons c calls ih => exact ih (h.call c)

theorem call_snd (b : Buffer) (c : Call) : (b.call c).2 = c.alone := by
  cases c with
  | compile name source => rfl
  | execute t data => rw [call, execute_snd, Call.alone]
  | render name source data => rw [call, render_snd, Call.alone]

theorem call_leaves (b : Buffer) (c : Call) : c.Leaves b (b.call c).1 := by
  cases c with
  | compile name source => rfl
  | execute t data =>
    intro hend
    obtain ⟨held, rfl⟩ := hend.exists_holding
    rw [call_holding]
    simp [Call.into, holding, Template.execute]
  | render name source data =>
    cases hs : source.isEmpty with
    | true => rw [Call.Leaves, if_pos hs, call, render_empty hs]
    | false =>
      rw [Call.Leaves, hs, if_neg Bool.false_ne_true]
      intro u hu
      have hsnd : (renderInto "" name source data).2 = .ok u := hu
      rw [call, render_eq_fresh hs, fresh, render_holding, renderInto_fst_of_ok hs hsnd]
      rfl

end Buffer

/-- Calls that share a buffer do not see each other. Whatever it held at first, and after any calls,
each call gives back what it does with a fresh buffer, and leaves what it should in the shared one.
A position at the end stays there. -/
theorem calls_share_buffer (b₀ : Buffer) (calls : List Call) (c : Call) :
    let b := b₀.after calls
    (b.call c).2 = (Buffer.fresh.call c).2 ∧ (b.call c).2 = c.alone ∧
      c.Leaves b (b.call c).1 ∧ (b₀.AtEnd → b.AtEnd) := by
  intro b
  refine ⟨?_, Buffer.call_snd b c, Buffer.call_leaves b c, fun h => h.after calls⟩
  rw [Buffer.call_snd, Buffer.call_snd]

/-- What a failed execution has written stays, and is gone when a source is filled in. -/
theorem calls_share_buffer_failed : ∃ t, compile "n" "ab\x7b\x7b.ID.x\x7d\x7d" = .ok t ∧
    let b := Buffer.fresh.after [.execute t (.record "t" "" "" [] [])]
    b.contents = ['a', 'b'] ∧ b.AtEnd ∧
      (b.call (.render "n" "c" .nil)).2 = .rendered (.ok "c") ∧
      (b.call (.render "n" "c" .nil)).1.contents = ['c'] := by
  have hc : compile "n" "ab\x7b\x7b.ID.x\x7d\x7d" = .ok ⟨"n", "ab\x7b\x7b.ID.x\x7d\x7d",
      [.text ['a', 'b'], .action ⟨2, "\x7b\x7b.ID.x\x7d\x7d".toList⟩
        (.mk (.mk (.field false ["ID", "x"]) []) [])]⟩ := by
    with_unfolding_all rfl
  have hrender : Template.render "n" "c" .nil = .ok "c" := by with_unfolding_all rfl
  refine ⟨_, hc, by with_unfolding_all rfl, ?_⟩
  obtain ⟨-, halone, hleaves, hend⟩ := calls_share_buffer Buffer.fresh
    [.execute _ (.record "t" "" "" [] [])] (.render "n" "c" .nil)
  exact ⟨hend rfl, halone.trans (congrArg Answer.rendered hrender), hleaves "c" hrender⟩

end AlertRelay.Template
