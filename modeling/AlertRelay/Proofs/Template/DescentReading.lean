import AlertRelay.Proofs.Template.Descent
import AlertRelay.Proofs.Template.TreeStep

/-!
Descent comes to what reading piece by piece comes to, be it a tree or a flaw. A state of the one
reading tells what the other has still to do: to go on at the innermost open phrase, and then to
return to the phrases around it, one after the other.
-/

namespace AlertRelay.Template

/-- How descent ends where reading piece by piece ends so. -/
def Halt.of {α : Type} : Except Located α → Except Halt α
  | .ok a => pure a
  | .error e => throw (.flaw e)

/-- What an attempt comes to, without the bound. -/
def Attempt.plain {α : Type} {n : Nat} (a : Attempt α n) : Except Halt (α × List Token) :=
  a.map Subtype.val

section

variable {α β : Type} {m n : Nat}

@[simp] theorem plain_weaken (h : m ≤ n) (a : Attempt α m) : (a.weaken h).plain = a.plain := by
  cases a <;> rfl

theorem plain_bind {a : Attempt α m} {f : { r : α × List Token // r.2.length ≤ m } → Attempt β n}
    {g : α × List Token → Except Halt (β × List Token)} (h : ∀ r, (f r).plain = g r.1) :
    Attempt.plain (a >>= f) = a.plain >>= g := by
  cases a with
  | error e => rfl
  | ok r => exact h r

end

namespace Descent

/-!
Pipelines.
-/

theorem pipeline?_eq (s : Draft) : s.pipeline? = s.command?.map (.ofCommands s.commands) := rfl

/-- How a pipeline goes on after a command. -/
def afterCommand (d : Nat) (s : Draft) : Command × List Token → Except Halt (Pipeline × List Token)
  | (_, []) => throw .pastEnd
  | (c, t :: ts) =>
    if t.isPipe then (pipeline d ⟨c :: s.commands, []⟩ ts).plain
    else pure (.ofCommands s.commands c, t :: ts)

theorem plain_pipeline (d : Nat) (s : Draft) (ts : List Token) :
    (pipeline d s ts).plain = (command d s ts).plain >>= afterCommand d s := by
  rw [pipeline]
  refine plain_bind fun ⟨(c, us), h⟩ => ?_
  cases us with
  | nil => rfl
  | cons t us =>
    unfold afterCommand
    dsimp only
    split
    · exact plain_weaken ..
    · rfl

theorem plain_command_operand {d : Nat} {s : Draft} {t : Token} {ts : List Token}
    (h : t.endsCommand = false) :
    (command d s (t :: ts)).plain =
      (operand d (t :: ts)).plain >>= fun r => (command d (s.push r.1) r.2).plain := by
  rw [command, if_neg (by simp [h])]
  exact plain_bind fun r => plain_weaken ..

theorem plain_command_end {d : Nat} {s : Draft} {t : Token} {ts : List Token}
    (h : t.endsCommand = true) :
    (command d s (t :: ts)).plain =
      match s.command? with
      | none => throw (.flaw (t.pos, .missingValue "command"))
      | some c => pure (c, t :: ts) := by
  rw [command, if_pos h]
  cases s.command? <;> rfl

theorem pipeline_operand {d : Nat} {s : Draft} {t : Token} {ts : List Token}
    (h : t.endsCommand = false) :
    (pipeline d s (t :: ts)).plain =
      (operand d (t :: ts)).plain >>= fun r => (pipeline d (s.push r.1) r.2).plain := by
  rw [plain_pipeline, plain_command_operand h, bind_assoc]
  congr 1
  funext r
  exact (plain_pipeline ..).symm

theorem pipeline_pipe (d pos : Nat) (s : Draft) (ts : List Token) :
    (pipeline d s (.item ⟨.pipe, pos⟩ :: ts)).plain =
      match s.command? with
      | none => throw (.flaw (pos, .missingValue "command"))
      | some c => (pipeline d ⟨c :: s.commands, []⟩ ts).plain := by
  rw [plain_pipeline, plain_command_end rfl]
  cases s.command? <;> rfl

theorem pipeline_end {d : Nat} {s : Draft} {t : Token} {ts : List Token} (h : t.endsCommand = true)
    (hp : t.isPipe = false) :
    (pipeline d s (t :: ts)).plain =
      match s.pipeline? with
      | none => throw (.flaw (t.pos, .missingValue "command"))
      | some p => pure (p, t :: ts) := by
  rw [plain_pipeline, plain_command_end h, pipeline?_eq]
  cases s.command? with
  | none => rfl
  | some c => exact if_neg (by simp [hp])

/-- What is left to do once the innermost pipeline is read. -/
def unwind (depth : Nat) :
    List Draft → Pipeline × List Token → Except Halt ((Pipeline × Nat) × List Token)
  | [], (p, ts) => do
    let (stop, ts) ← (closing ts).plain
    pure ((p, stop), ts)
  | s :: outer, (p, ts) => do
    let (_, ts) ← (rightParen ts).plain
    let r ← (pipeline (depth + outer.length) (s.push (.group p)) ts).plain
    unwind depth outer r

/-- What is left to do after some items of an action. -/
def resume (depth : Nat) (s : Drafts) (ts : List Token) :
    Except Halt ((Pipeline × Nat) × List Token) :=
  (pipeline (depth + s.outer.length) s.inner ts).plain >>= unwind depth s.outer

theorem resume_operand {depth : Nat} {s : Drafts} {t : Token} {ts : List Token} {o : Operand}
    (h : t.endsCommand = false)
    (ho : (operand (depth + s.outer.length) (t :: ts)).plain = pure (o, ts)) :
    resume depth s (t :: ts) = resume depth (s.push o) ts := by
  unfold resume
  rw [pipeline_operand h, ho, pure_bind]
  rfl

theorem operand_leftParen (d pos : Nat) (ts : List Token) :
    (operand d (.item ⟨.leftParen, pos⟩ :: ts)).plain =
      if depthLimit ≤ d then throw (.flaw (pos, .tooDeep))
      else (pipeline (d + 1) .empty ts).plain >>= fun r =>
        (rightParen r.2).plain >>= fun us => pure (.group r.1, us.2) := by
  rw [operand]
  split
  · rfl
  · exact plain_bind fun r => plain_bind fun us => rfl

theorem resume_step (depth : Nat) (s : Drafts) (t : Placed) (ts : List Token) :
    resume depth s (.item t :: ts) = Halt.of (s.step depth t) >>= (resume depth · ts) := by
  obtain ⟨item, pos⟩ := t
  cases item with
  | field root names =>
    exact resume_operand rfl (by rw [operand]; rfl)
  | dot => exact resume_operand rfl (by rw [operand]; rfl)
  | constant c => exact resume_operand rfl (by rw [operand]; rfl)
  | word name =>
    cases hf : Builtin.ofName? name with
    | some f =>
      have hstep : s.step depth ⟨.word name, pos⟩ = .ok (s.push (.function f)) := by
        simp [Drafts.step, hf]
      rw [hstep]
      exact resume_operand rfl (by rw [operand, hf]; rfl)
    | none =>
      have hstep : s.step depth ⟨.word name, pos⟩ = .error (pos, .unknownFunction name) := by
        simp [Drafts.step, hf]
      rw [hstep, resume, pipeline_operand rfl, operand, hf]
      rfl
  | pipe =>
    rw [resume, pipeline_pipe]
    unfold Drafts.step
    cases s.inner.command? with
    | none => rfl
    | some c => rfl
  | leftParen =>
    rw [resume, pipeline_operand rfl, operand_leftParen]
    unfold Drafts.step
    dsimp only
    split
    · rfl
    · simp only [bind_assoc]
      rfl
  | rightParen =>
    rw [resume, pipeline_end rfl rfl]
    unfold Drafts.step
    cases s.inner.pipeline? with
    | none => rfl
    | some p =>
      cases s.outer with
      | nil => rfl
      | cons outer rest => rfl

theorem resume_items (depth close stop : Nat) (s : Drafts) (items : List Placed)
    (ts : List Token) :
    resume depth s (items.map .item ++ .closing close stop :: ts) =
      Halt.of (items.foldlM (Drafts.step depth) s >>= (Drafts.finish · close)) >>=
        fun p => pure ((p, stop), ts) := by
  induction items generalizing s with
  | nil =>
    -- The closing delimiter ends the pipeline, and must not stand in parentheses.
    rw [List.map_nil, List.nil_append, List.foldlM_nil, resume, pipeline_end rfl rfl]
    change _ = Halt.of (s.finish close) >>= _
    unfold Drafts.finish
    cases s.inner.pipeline? with
    | none => rfl
    | some p =>
      cases s.outer with
      | nil => rfl
      | cons outer rest => rfl
  | cons t items ih =>
    rw [List.map_cons, List.cons_append, resume_step, List.foldlM_cons]
    cases s.step depth t with
    | error e => rfl
    | ok s' => exact ih s'

theorem value_eq (depth close stop : Nat) (items : List Placed) (ts : List Token) :
    (value depth (items.map .item ++ .closing close stop :: ts)).plain =
      Halt.of (readPipeline depth close items) >>= fun p => pure ((p, stop), ts) := by
  unfold value readPipeline
  rw [← resume_items]
  exact plain_bind fun r => plain_bind fun us => rfl

/-!
Blocks.
-/

theorem closing_items (items : List Placed) (close stop : Nat) (ts : List Token) :
    (closing (items.map .item ++ .closing close stop :: ts)).plain =
      Halt.of (Growth.expectClose items) >>= fun _ => pure (stop, ts) := by
  cases items <;> rfl

variable (source : List Char)

theorem nodes_text (d pos : Nat) (content : List Char) (ns : List Node) (ts : List Token) :
    (nodes source d ns (.text pos content :: ts)).plain =
      (nodes source d (.text content :: ns) ts).plain := by
  rw [nodes]
  exact plain_weaken ..

theorem nodes_action (d pos : Nat) (ns : List Node) (head : Token) (ts : List Token) :
    (nodes source d ns (.opening pos :: head :: ts)).plain =
      match head.word? with
      | none => (nodesAfterValue source d ns (.opening pos) (head :: ts)).plain
      | some w =>
        if w == "end" || w == "else" then pure (⟨ns, some (w, head.pos)⟩, head :: ts)
        else
          match Keyword.ofName? w with
          | some k =>
            (block source d k pos head.pos ts).plain >>= fun r =>
              (nodes source d (r.1 :: ns) r.2).plain
          | none =>
            if Growth.refusedWords.contains w then
              throw (.flaw (head.pos, .unsupported (inDelims w)))
            else (nodesAfterValue source d ns (.opening pos) (head :: ts)).plain := by
  rw [nodes]
  · cases head.word? with
    | none => exact plain_weaken ..
    | some w =>
      dsimp only
      split
      · rfl
      · cases Keyword.ofName? w with
        | some k => exact plain_bind fun r => plain_weaken ..
        | none =>
          dsimp only
          split
          · rfl
          · exact plain_weaken ..
  · intro pos content he
    cases he

theorem nodesAfterValue_eq (d : Nat) (ns : List Node) (t : Token) (ts : List Token) :
    (nodesAfterValue source d ns t ts).plain = (value d ts).plain >>= fun r =>
      (nodes source d (.action ⟨t.pos, Growth.excerpt source t.pos r.1.2⟩ r.1.1 :: ns)
        r.2).plain := by
  rw [nodesAfterValue]
  exact plain_bind fun r => plain_weaken ..

theorem block_eq (d : Nat) (k : Keyword) (pos headPos : Nat) (t : Token) (ts : List Token) :
    (block source d k pos headPos (t :: ts)).plain =
      if depthLimit ≤ d then throw (.flaw (headPos, .tooDeep))
      else if t.isClosing then throw (.flaw (headPos, .missingValue k.name))
      else (value (d + 1) (t :: ts)).plain >>= fun r =>
        (nodes source (d + 1) [] r.2).plain >>= fun b =>
          (afterBody source (d + 1)
            ⟨k, headPos, ⟨pos, Growth.excerpt source pos r.1.2⟩, r.1.1⟩ b.1 b.2).plain := by
  rw [block]
  split
  · rfl
  dsimp only
  split
  · rfl
  · exact plain_bind fun r => plain_bind fun b => plain_weaken ..

theorem afterElse_end (h : Head) (body ns : List Node) (pos : Nat) (t : Token) (ts : List Token) :
    (afterElse h body ⟨ns, some ("end", pos)⟩ (t :: ts)).plain = (closing ts).plain >>= fun r =>
      pure (.block h.keyword h.site h.condition body ns.reverse, r.2) := by
  have hend : ("end" == "end") = true := rfl
  rw [afterElse]
  dsimp only
  rw [if_pos hend]
  exact plain_bind fun r => rfl

theorem afterBody_end (d pos : Nat) (h : Head) (ns : List Node) (t : Token) (ts : List Token) :
    (afterBody source d h ⟨ns, some ("end", pos)⟩ (t :: ts)).plain = (closing ts).plain >>= fun r =>
      pure (.block h.keyword h.site h.condition ns.reverse [], r.2) := by
  have hend : ¬ ("end" == "else") = true := by decide
  rw [afterBody]
  dsimp only
  rw [if_neg hend]
  exact plain_bind fun r => rfl

theorem afterBody_else (d pos : Nat) (h : Head) (ns : List Node) (t next : Token)
    (ts : List Token) :
    (afterBody source d h ⟨ns, some ("else", pos)⟩ (t :: next :: ts)).plain =
      if next.word? == some h.keyword.name && h.keyword.chains then
        (block source d h.keyword pos next.pos ts).plain >>= fun r =>
          pure (.block h.keyword h.site h.condition ns.reverse [r.1], r.2)
      else
        (closing (next :: ts)).plain >>= fun c => (nodes source d [] c.2).plain >>= fun r =>
          (afterElse h ns.reverse r.1 r.2).plain := by
  have helse : ("else" == "else") = true := rfl
  rw [afterBody]
  dsimp only
  rw [if_pos helse]
  split
  · exact plain_bind fun r => rfl
  · exact plain_bind fun c => plain_bind fun r => plain_weaken ..

/-- After an `else`, a block goes on with another of its kind or with its last part. -/
theorem afterBody_continuation (d close stop pos : Nat) (h : Head) (ns : List Node)
    (items : List Placed) (ts : List Token) :
    (afterBody source d h ⟨ns, some ("else", pos)⟩
        (.word "else" pos :: (items.map .item ++ .closing close stop :: ts))).plain =
      match Growth.continuation? h.keyword items with
      | some (headPos, rest) =>
        (block source d h.keyword pos headPos
            (rest.map .item ++ .closing close stop :: ts)).plain >>=
          fun r => pure (.block h.keyword h.site h.condition ns.reverse [r.1], r.2)
      | none =>
        Halt.of (Growth.expectClose items) >>= fun _ => (nodes source d [] ts).plain >>=
          fun r => (afterElse h ns.reverse r.1 r.2).plain := by
  cases items with
  | nil => exact afterBody_else ..
  | cons t rest =>
    obtain ⟨item, headPos⟩ := t
    rw [List.map_cons, List.cons_append, afterBody_else]
    cases item with
    | word w =>
      change (if (w == h.keyword.name && h.keyword.chains) = true then _ else _) = _
      unfold Growth.continuation?
      dsimp only
      split
      · rfl
      · rfl
    | pipe | leftParen | rightParen | dot | field | constant => rfl

def headOf (f : Frame) : Head := ⟨f.keyword, f.headPos, f.site, f.condition⟩

/-- What is left to do for an open block once its innermost part is read. -/
def leave (d : Nat) (f : Frame) (r : Part × List Token) : Except Halt (Node × List Token) :=
  match f.body? with
  | none => (afterBody source d (headOf f) r.1 r.2).plain
  | some body => (afterElse (headOf f) body r.1 r.2).plain

theorem leave_end (d close stop pos : Nat) (f : Frame) (ns : List Node) (items : List Placed)
    (ts : List Token) :
    leave source d f (⟨ns, some ("end", pos)⟩,
        .word "end" pos :: (items.map .item ++ .closing close stop :: ts)) =
      Halt.of (Growth.expectClose items) >>= fun _ => pure (f.node ns, ts) := by
  unfold leave Frame.node
  cases hb : f.body? with
  | none =>
    dsimp only
    rw [afterBody_end, closing_items, bind_assoc]
    rfl
  | some body =>
    dsimp only
    rw [afterElse_end, closing_items, bind_assoc]
    rfl

theorem length_frames_close (f : Frame) (n : Node) (frames : List Frame) :
    (f.close n frames).frames.length ≤ frames.length := by
  induction frames generalizing f n with
  | nil =>
    unfold Frame.close
    split
    · exact Nat.le_refl 0
    · exact Nat.le_refl 0
  | cons f' frames ih =>
    unfold Frame.close
    split
    · rw [Growth.closeBlock_cons]
      exact Nat.le_succ_of_le (ih f' _)
    · exact Nat.le_refl _

/-- What is left to do once the part at hand of the innermost block is read. -/
def unwindBlocks : List Frame → Part × List Token → Except Halt (List Node)
  | [], (r, _) =>
    match r.term with
    | none => pure r.nodes.reverse
    | some (w, pos) => throw (.flaw (pos, .unexpected (inDelims w)))
  | f :: frames, r => do
    let (n, ts) ← leave source (frames.length + 1) f r
    let r ← (nodes source (f.close n frames).frames.length (f.close n frames).nodes ts).plain
    unwindBlocks (f.close n frames).frames r
termination_by frames => frames.length
-- To close a block may close blocks around it, which share its end, and opens none.
decreasing_by exact Nat.lt_succ_of_le (length_frames_close ..)

/-- What is left to do after some pieces. -/
def resumeTree (g : Growth) (ts : List Token) : Except Halt (List Node) :=
  (nodes source g.frames.length g.nodes ts).plain >>= unwindBlocks source g.frames

theorem unwindBlocks_nil (r : Part × List Token) : unwindBlocks source [] r =
    match r.1.term with
    | none => pure r.1.nodes.reverse
    | some (w, pos) => throw (.flaw (pos, .unexpected (inDelims w))) := by
  rw [unwindBlocks]

theorem unwindBlocks_cons (f : Frame) (frames : List Frame) (r : Part × List Token) :
    unwindBlocks source (f :: frames) r = leave source (frames.length + 1) f r >>= fun r =>
      resumeTree source (f.close r.1 frames) r.2 := by
  rw [unwindBlocks]
  rfl

theorem block_open {g : Growth} {k : Keyword} {chained : Bool} {pos headPos close stop : Nat}
    {items : List Placed} {ts : List Token} {next : Node × List Token → Except Halt (List Node)}
    (h : ∀ p n us, next (n, us) = resumeTree source (Frame.close ⟨k, headPos,
      ⟨pos, Growth.excerpt source pos stop⟩, p, chained, g.nodes, none⟩ n g.frames) us) :
    (block source g.frames.length k pos headPos
        (items.map .item ++ .closing close stop :: ts)).plain >>= next =
      Halt.of (Growth.openBlock source g k chained pos headPos items close stop) >>=
        (resumeTree source · ts) := by
  unfold Growth.openBlock
  cases items with
  | nil =>
    rw [List.map_nil, List.nil_append, block_eq]
    split
    · rfl
    · rfl
  | cons t rest =>
    have hvalue := value_eq (g.frames.length + 1) close stop (t :: rest) ts
    have hitem : ¬ (Token.item t).isClosing = true := Bool.false_ne_true
    rw [List.map_cons, List.cons_append] at hvalue ⊢
    rw [block_eq, if_neg hitem]
    split
    · rfl
    · rw [hvalue]
      cases readPipeline (g.frames.length + 1) close (t :: rest) with
      | error e => rfl
      | ok p =>
        let f : Frame :=
          ⟨k, headPos, ⟨pos, Growth.excerpt source pos stop⟩, p, chained, g.nodes, none⟩
        change ((nodes source (g.frames.length + 1) [] ts).plain >>= fun b =>
            (afterBody source (g.frames.length + 1) (headOf f) b.1 b.2).plain) >>= next =
          (nodes source (g.frames.length + 1) [] ts).plain >>= unwindBlocks source (f :: g.frames)
        rw [bind_assoc]
        congr 1
        funext b
        -- What is left to do for the new frame is what is left to do for the block.
        rw [unwindBlocks_cons]
        change (afterBody source (g.frames.length + 1) (headOf f) b.1 b.2).plain >>= next =
          (afterBody source (g.frames.length + 1) (headOf f) b.1 b.2).plain >>= _
        congr 1
        funext r
        exact h p r.1 r.2

theorem resumeTree_value (g : Growth) (pos close stop : Nat) (items : List Placed)
    (ts : List Token) :
    ((nodesAfterValue source g.frames.length g.nodes (.opening pos)
        (items.map .item ++ .closing close stop :: ts)).plain >>= unwindBlocks source g.frames) =
      Halt.of (Growth.readAction source g ⟨pos, items, close, stop⟩) >>=
        (resumeTree source · ts) := by
  rw [nodesAfterValue_eq, value_eq]
  unfold Growth.readAction
  cases readPipeline g.frames.length close items with
  | error e => rfl
  | ok p => rfl

theorem resumeTree_end (g : Growth) (pos wordPos close stop : Nat) (items : List Placed)
    (ts : List Token) :
    resumeTree source g (.opening pos :: .word "end" wordPos ::
        (items.map .item ++ .closing close stop :: ts)) =
      Halt.of (Growth.readEnd g wordPos items) >>= (resumeTree source · ts) := by
  rw [resumeTree, nodes_action]
  change unwindBlocks source g.frames (⟨g.nodes, some ("end", wordPos)⟩, _) = _
  unfold Growth.readEnd
  cases hf : g.frames with
  | nil =>
    rw [unwindBlocks_nil]
    rfl
  | cons f frames =>
    rw [unwindBlocks_cons]
    rw [leave_end]
    cases Growth.expectClose items with
    | error e => rfl
    | ok u => rfl

theorem resumeTree_else (g : Growth) (pos wordPos close stop : Nat) (items : List Placed)
    (ts : List Token) :
    resumeTree source g (.opening pos :: .word "else" wordPos ::
        (items.map .item ++ .closing close stop :: ts)) =
      Halt.of (Growth.readElse source g wordPos items close stop) >>=
        (resumeTree source · ts) := by
  rw [resumeTree, nodes_action]
  change unwindBlocks source g.frames (⟨g.nodes, some ("else", wordPos)⟩, _) = _
  unfold Growth.readElse
  cases hf : g.frames with
  | nil =>
    rw [unwindBlocks_nil]
    rfl
  | cons f frames =>
    rw [unwindBlocks_cons]
    unfold leave
    dsimp only
    cases hb : f.body? with
    | some body => rfl
    | none =>
      dsimp only
      rw [afterBody_continuation]
      rw [show (headOf f).keyword = f.keyword from rfl]
      cases Growth.continuation? f.keyword items with
      | some next =>
        dsimp only
        rw [bind_assoc]
        -- The node of the block that shares the end is the `else` part of this one.
        let inElse : Growth := ⟨[], { f with body? := some g.nodes.reverse } :: frames⟩
        exact @block_open source inElse f.keyword true wordPos next.1 close stop next.2 ts _
          fun p n us => rfl
      | none =>
        cases Growth.expectClose items with
        | error e => rfl
        | ok u =>
          change ((nodes source (frames.length + 1) [] ts).plain >>= fun r =>
                (afterElse (headOf f) g.nodes.reverse r.1 r.2).plain) >>= _ =
            (nodes source (frames.length + 1) [] ts).plain >>= unwindBlocks source (_ :: frames)
          rw [bind_assoc]
          congr 1
          funext r
          rw [unwindBlocks_cons]
          rfl

theorem resumeTree_piece (g : Growth) (x : Piece) (ts : List Token) :
    resumeTree source g (x.tokens ++ ts) =
      Halt.of (Growth.step source g x) >>= (resumeTree source · ts) := by
  cases x with
  | text pos content =>
    change resumeTree source g (.text pos content :: ts) = resumeTree source _ ts
    rw [resumeTree, nodes_text]
    rfl
  | action a =>
    obtain ⟨pos, items, close, stop⟩ := a
    rw [Piece.tokens, List.cons_append, List.append_assoc]
    change resumeTree source g (.opening pos :: (items.map .item ++ .closing close stop :: ts)) = _
    cases items with
    | nil =>
      rw [resumeTree, List.map_nil, List.nil_append, nodes_action]
      exact resumeTree_value source g pos close stop [] ts
    | cons t rest =>
      obtain ⟨item, headPos⟩ := t
      cases item with
      | word w =>
        by_cases hend : w = "end"
        · subst hend
          exact resumeTree_end source g pos headPos close stop rest ts
        by_cases helse : w = "else"
        · subst helse
          exact resumeTree_else source g pos headPos close stop rest ts
        have hstop : ¬ (w == "end" || w == "else") = true := by simp [hend, helse]
        have hend' : ¬ (w == "end") = true := by simp [hend]
        have helse' : ¬ (w == "else") = true := by simp [helse]
        rw [resumeTree, List.map_cons, List.cons_append, nodes_action]
        change (if (w == "end" || w == "else") = true then _ else _) >>= _ = _
        unfold Growth.step
        dsimp only
        rw [if_neg hstop, if_neg hend', if_neg helse']
        cases Keyword.ofName? w with
        | some k =>
          dsimp only
          rw [bind_assoc]
          exact block_open source fun p n us => rfl
        | none =>
          dsimp only
          split
          · rfl
          · exact resumeTree_value source g pos close stop (⟨.word w, headPos⟩ :: rest) ts
      | pipe | leftParen | rightParen | dot =>
        rw [resumeTree, List.map_cons, List.cons_append, nodes_action]
        exact resumeTree_value source g pos close stop (⟨_, headPos⟩ :: rest) ts
      | field root names =>
        rw [resumeTree, List.map_cons, List.cons_append, nodes_action]
        exact resumeTree_value source g pos close stop (⟨.field root names, headPos⟩ :: rest) ts
      | constant c =>
        rw [resumeTree, List.map_cons, List.cons_append, nodes_action]
        exact resumeTree_value source g pos close stop (⟨.constant c, headPos⟩ :: rest) ts

theorem resumeTree_nil (g : Growth) : resumeTree source g [] = Halt.of g.finish := by
  have hnodes : (nodes source g.frames.length g.nodes []).plain = pure (⟨g.nodes, none⟩, []) := by
    rw [nodes]
    rfl
  rw [resumeTree, hnodes, pure_bind]
  unfold Growth.finish
  cases g.frames with
  | nil =>
    rw [unwindBlocks_nil]
    rfl
  | cons f frames =>
    rw [unwindBlocks_cons]
    unfold leave
    cases hb : f.body? with
    | none =>
      dsimp only
      rw [afterBody, hb]
      rfl
    | some body =>
      dsimp only
      rw [hb]
      rfl

theorem resumeTree_pieces (g : Growth) (ps : List Piece) :
    resumeTree source g (tokens ps) =
      Halt.of (ps.foldlM (Growth.step source) g >>= Growth.finish) := by
  induction ps generalizing g with
  | nil => exact resumeTree_nil source g
  | cons x ps ih =>
    rw [tokens, List.flatMap_cons, resumeTree_piece, List.foldlM_cons]
    cases Growth.step source g x with
    | error e => rfl
    | ok g' => exact ih g'

theorem template_eq (ts : List Token) : template source ts = resumeTree source .start ts := by
  unfold template resumeTree
  change nodes source 0 [] ts >>= _ = (nodes source 0 [] ts).plain >>= _
  cases nodes source 0 [] ts with
  | error e => rfl
  | ok r => exact (unwindBlocks_nil source r.1).symm

end Descent

/-- Descent comes to the tree of the pieces, or to their flaw. -/
theorem template_tokens (source : List Char) (ps : List Piece) :
    Descent.template source (tokens ps) = Halt.of (readTree source ps) := by
  rw [Descent.template_eq, Descent.resumeTree_pieces]
  rfl

end AlertRelay.Template
