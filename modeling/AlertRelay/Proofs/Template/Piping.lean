import AlertRelay.Proofs.Template.Relocation

/-!
A value that is piped into a function comes in as its last argument: a chain of calls, and the calls
nested in each other, have the same value or both none.
-/

namespace AlertRelay.Template

/-!
Values.
-/

/-- Failures for whatever causes. -/
def AnyCause (_ _ : Cause) : Prop := True

theorem agrees_anyCause_iff {x y : Except Cause Value} :
    Agrees AnyCause Eq x y ↔ x.toOption = y.toOption := by
  cases x <;> cases y
  · exact ⟨fun _ => rfl, fun _ => .error trivial⟩
  · exact ⟨nofun, nofun⟩
  · exact ⟨nofun, nofun⟩
  · constructor
    · rintro (⟨rfl⟩ | _)
      rfl
    · intro h
      exact .ok (Option.some.inj h)

theorem toOption_bind {ε α β : Type} (x : Except ε α) (f : α → Except ε β) :
    (x >>= f).toOption = x.toOption.bind fun a => (f a).toOption := by
  cases x <;> rfl

/-- A pipeline that goes on with a command. -/
def Pipeline.snoc : Pipeline → Command → Pipeline
  | .mk first rest, c => .mk first (rest ++ [c])

/-- A pipeline that goes on with a call. -/
def Pipeline.pipe (p : Pipeline) (f : Builtin) (arguments : List Operand) : Pipeline :=
  p.snoc (.mk (.function f) arguments)

/-- A call with the value of a pipeline as its last argument. -/
def Pipeline.nest (p : Pipeline) (f : Builtin) (arguments : List Operand) : Pipeline :=
  .mk (.mk (.function f) (arguments ++ [.group p])) []

theorem commandValues_append (root dot v : Value) (cs ds : List Command) :
    commandValues root dot v (cs ++ ds) =
      commandValues root dot v cs >>= fun w => commandValues root dot w ds := by
  induction cs generalizing v with
  | nil => rfl
  | cons c cs ih =>
    rw [List.cons_append, commandValues, commandValues, bind_assoc]
    exact congrArg _ (funext ih)

theorem Pipeline.value_snoc (root dot : Value) (p : Pipeline) (c : Command) :
    (p.snoc c).value root dot = p.value root dot >>= fun v => c.value root dot (some v) := by
  obtain ⟨first, rest⟩ := p
  rw [snoc, Pipeline.value, Pipeline.value, bind_assoc]
  refine congrArg _ (funext fun v => ?_)
  rw [commandValues_append]
  refine congrArg _ (funext fun w => ?_)
  rw [commandValues]
  exact bind_pure _

theorem operandValues_append (root dot : Value) (os qs : List Operand) :
    operandValues root dot (os ++ qs) = operandValues root dot os >>= fun vs =>
      operandValues root dot qs >>= fun ws => .ok (vs ++ ws) := by
  induction os with
  | nil => exact (bind_pure _).symm
  | cons o os ih =>
    rw [List.cons_append, operandValues, operandValues, bind_assoc]
    refine congrArg _ (funext fun v => ?_)
    rw [ih, bind_assoc, bind_assoc]
    refine congrArg _ (funext fun vs => ?_)
    exact bind_assoc ..

/-- The value of a pipeline is had before the arguments in the one spelling, and after them in the
other. -/
theorem toOption_value_pipe (root dot : Value) (p : Pipeline) (f : Builtin)
    (arguments : List Operand) :
    ((p.pipe f arguments).value root dot).toOption =
      (p.value root dot).toOption.bind fun v =>
        (operandValues root dot arguments).toOption.bind fun vs =>
          (call f (vs ++ [v])).toOption := by
  rw [Pipeline.pipe, Pipeline.value_snoc, toOption_bind]
  refine congrArg _ (funext fun v => ?_)
  rw [Command.value, toOption_bind]
  rfl

theorem toOption_value_nest (root dot : Value) (p : Pipeline) (f : Builtin)
    (arguments : List Operand) :
    ((p.nest f arguments).value root dot).toOption =
      (p.value root dot).toOption.bind fun v =>
        (operandValues root dot arguments).toOption.bind fun vs =>
          (call f (vs ++ [v])).toOption := by
  have hvalue : (p.nest f arguments).value root dot = operandValues root dot arguments >>= fun vs =>
      p.value root dot >>= fun v => call f (vs ++ [v]) := by
    rw [Pipeline.nest, Pipeline.value, Command.value, operandValues_append, bind_assoc, bind_assoc]
    refine congrArg _ (funext fun vs => ?_)
    rw [operandValues, Operand.value]
    cases p.value root dot with
    | error e => rfl
    | ok v =>
      change (call f (vs ++ [v] ++ []) >>= fun w => commandValues root dot w []) = _
      rw [List.append_nil]
      exact bind_pure _
  rw [hvalue, toOption_bind, Option.bind_comm]
  exact congrArg _ (funext fun vs => toOption_bind ..)

/-- Calls with their arguments, one after the other. -/
abbrev Calls := List (Builtin × List Operand)

/-- A chain of calls, each with the value before it as its last argument. -/
def Pipeline.pipes (p : Pipeline) (calls : Calls) : Pipeline :=
  calls.foldl (fun p call => p.pipe call.1 call.2) p

/-- The nest of the same calls. -/
def Pipeline.nests (p : Pipeline) (calls : Calls) : Pipeline :=
  calls.foldl (fun p call => p.nest call.1 call.2) p

theorem Pipeline.Alike.pipe_nest {p q : Pipeline} (h : p.Alike AnyCause q) (f : Builtin)
    (arguments : List Operand) : (p.pipe f arguments).Alike AnyCause (q.nest f arguments) := by
  intro root dot
  rw [agrees_anyCause_iff, toOption_value_pipe, toOption_value_nest,
    agrees_anyCause_iff.mp (h root dot)]

theorem Pipeline.Alike.pipes_nests {p q : Pipeline} (h : p.Alike AnyCause q) (calls : Calls) :
    (p.pipes calls).Alike AnyCause (q.nests calls) := by
  induction calls generalizing p q with
  | nil => exact h
  | cons call calls ih => exact ih (h.pipe_nest call.1 call.2)

/-!
Readers. What some items are read as does not depend on how deep they stand, except that too deep
they are not read at all.
-/

/-- However deep some items stand, if they are read at all, they are read as some operands. -/
def ReadsOperands (xs : List Placed) (os : List Operand) : Prop :=
  ∀ depth s s', xs.foldlM (Drafts.step depth) s = .ok s' → s' = os.foldl Drafts.push s

/-- However deep some items stand, if they are read at all, they are read as a command. -/
def ReadsCommand (xs : List Placed) (c : Command) : Prop :=
  ∀ depth s s', s.inner.operands = [] → xs.foldlM (Drafts.step depth) s = .ok s' →
    s'.outer = s.outer ∧ s'.inner.commands = s.inner.commands ∧ s'.inner.command? = some c

/-- However deep some items stand, if they are read at all, they are read as a pipeline. -/
def ReadsPipeline (xs : List Placed) (p : Pipeline) : Prop :=
  ∀ depth s s', s.inner = .empty → xs.foldlM (Drafts.step depth) s = .ok s' →
    s'.outer = s.outer ∧ s'.inner.pipeline? = some p

theorem ReadsOperands.nil : ReadsOperands [] [] := by
  rintro depth s s' ⟨⟩
  rfl

theorem ReadsOperands.append {xs ys : List Placed} {os qs : List Operand}
    (h : ReadsOperands xs os) (h' : ReadsOperands ys qs) : ReadsOperands (xs ++ ys) (os ++ qs) := by
  intro depth s s' hs
  obtain ⟨s₁, hx, hy⟩ := exists_of_foldlM_append hs
  rw [h' depth s₁ s' hy, h depth s s₁ hx, List.foldl_append]

theorem ReadsPipeline.group {xs : List Placed} {p : Pipeline} (h : ReadsPipeline xs p)
    (l r : Nat) :
    ReadsOperands (⟨.leftParen, l⟩ :: (xs ++ [⟨.rightParen, r⟩])) [.group p] := by
  intro depth s s' hs
  obtain ⟨s₁, hopen, hs⟩ := exists_of_foldlM_cons hs
  obtain ⟨s₂, hx, hclose⟩ := exists_of_foldlM_append hs
  obtain ⟨s₃, hclose, ⟨⟩⟩ := exists_of_foldlM_cons hclose
  unfold Drafts.step at hopen
  dsimp only at hopen
  split at hopen
  · cases hopen
  · cases hopen
    obtain ⟨ho, hp⟩ := h depth _ s₂ rfl hx
    unfold Drafts.step at hclose
    simp only [hp, ho] at hclose
    cases hclose
    rfl

theorem foldl_push (os : List Operand) (s : Drafts) :
    os.foldl Drafts.push s = ⟨⟨s.inner.commands, os.reverse ++ s.inner.operands⟩, s.outer⟩ := by
  induction os generalizing s with
  | nil => rfl
  | cons o os ih =>
    rw [List.foldl_cons, ih]
    simp [Drafts.push, Draft.push]

def Command.operands : Command → List Operand
  | .mk head arguments => head :: arguments

theorem ReadsOperands.command {xs : List Placed} {c : Command} (h : ReadsOperands xs c.operands) :
    ReadsCommand xs c := by
  obtain ⟨o, os⟩ := c
  intro depth s s' hs hx
  rw [h depth s s' hx, foldl_push, Draft.command?_eq_some_iff]
  simp [Command.operands, hs]

theorem ReadsCommand.pipeline {xs : List Placed} {c : Command} (h : ReadsCommand xs c) :
    ReadsPipeline xs (.mk c []) := by
  intro depth s s' hs hx
  obtain ⟨ho, hcs, hc⟩ := h depth s s' (by rw [hs]; rfl) hx
  refine ⟨ho, Draft.pipeline?_eq_some_iff.mpr ⟨c, hc, ?_⟩⟩
  rw [hcs, hs]
  rfl

theorem ReadsPipeline.snoc {xs ys : List Placed} {p : Pipeline} {c : Command}
    (h : ReadsPipeline xs p) (hc : ReadsCommand ys c) (pos : Nat) :
    ReadsPipeline (xs ++ ⟨.pipe, pos⟩ :: ys) (p.snoc c) := by
  obtain ⟨c₀, cs₀⟩ := p
  intro depth s s' hs hx
  obtain ⟨s₁, hx, hy⟩ := exists_of_foldlM_append hx
  obtain ⟨s₂, hpipe, hy⟩ := exists_of_foldlM_cons hy
  obtain ⟨ho, hp⟩ := h depth s s₁ hs hx
  obtain ⟨c', hc', hcs⟩ := Draft.pipeline?_eq_some_iff.mp hp
  unfold Drafts.step at hpipe
  simp only [hc'] at hpipe
  cases hpipe
  obtain ⟨ho', hcommands, hcommand⟩ := hc depth _ s' rfl hy
  refine ⟨ho'.trans ho, Draft.pipeline?_eq_some_iff.mpr ⟨c, hcommand, ?_⟩⟩
  rw [hcommands, List.reverse_cons, hcs]
  rfl

mutual

theorem IsOperand.reads {d : Nat} {xs : List Placed} {o : Operand} (h : IsOperand d xs o) :
    ReadsOperands xs [o] :=
  match h with
  | .field | .dot | .constant => by
    rintro depth s s' ⟨⟩
    rfl
  | @IsOperand.function _ pos w f hf => by
    intro depth s s' hs
    have hstep : Drafts.step depth s ⟨.word w, pos⟩ = .ok (s.push (.function f)) := by
      simp [Drafts.step, hf]
    rw [foldlM_cons_ok hstep rfl] at hs
    cases hs
    rfl
  | .group _ hp => hp.reads.group _ _

theorem IsCommand.reads {d : Nat} {xs : List Placed} {c : Command} (h : IsCommand d xs c) :
    ReadsOperands xs c.operands :=
  match h with
  | .one ho => ho.reads
  | .more hc ho => hc.reads.append ho.reads

theorem IsPipeline.reads {d : Nat} {xs : List Placed} {p : Pipeline} (h : IsPipeline d xs p) :
    ReadsPipeline xs p :=
  match h with
  | .one hc => hc.reads.command.pipeline
  | .more hp hc => hp.reads.snoc hc.reads.command _

end

theorem ReadsOperands.relocate {xs ys : List Placed} {os : List Operand} (h : ReadsOperands xs os)
    (he : SameItems xs ys) : ReadsOperands ys os :=
  fun depth s s' hs => h depth s s' (SameItems.foldlM he.symm hs)

/-!
Chains and nests as they are written.
-/

/-- The items of some arguments. -/
inductive IsArguments : List Placed → List Operand → Prop
  | nil : IsArguments [] []
  | more {d xs ys o os} : IsArguments xs os → IsOperand d ys o → IsArguments (xs ++ ys) (os ++ [o])

theorem IsArguments.reads {xs : List Placed} {os : List Operand} (h : IsArguments xs os) :
    ReadsOperands xs os := by
  induction h with
  | nil => exact .nil
  | more _ ho ih => exact ih.append ho.reads

/-- A pipeline that goes on through any number of calls, and the same calls nested in each other,
at any positions. -/
inductive Nests : List Placed → List Placed → Prop
  | pipeline {d xs ys p} : IsPipeline d xs p → SameItems xs ys → Nests xs ys
  | call {xs ys as bs os f pos wordPos wordPos' l r} : Nests xs ys → IsArguments as os →
      SameItems as bs →
      Nests (xs ++ ⟨.pipe, pos⟩ :: ⟨.word (Builtin.name f), wordPos⟩ :: as)
        (⟨.word (Builtin.name f), wordPos'⟩ ::
          (bs ++ ⟨.leftParen, l⟩ :: (ys ++ [⟨.rightParen, r⟩])))

theorem reads_function (f : Builtin) (pos : Nat) :
    ReadsOperands [⟨.word f.name, pos⟩] [.function f] :=
  (IsOperand.function (d := 0) (by cases f <;> rfl)).reads

/-- Both spellings are read as pipelines that come to the same. -/
theorem Nests.reads {xs ys : List Placed} (h : Nests xs ys) :
    ∃ p q, p.Alike AnyCause q ∧ ReadsPipeline xs p ∧ ReadsPipeline ys q := by
  induction h with
  | pipeline hp he =>
    exact ⟨_, _, .refl (fun _ => trivial) _, hp.reads, (hp.relocate he).reads⟩
  | @call xs ys as bs os f pos wordPos wordPos' l r _ has he ih =>
    obtain ⟨p, q, halike, hp, hq⟩ := ih
    refine ⟨p.pipe f os, q.nest f os, halike.pipe_nest f os, ?_, ?_⟩
    · have hcall : ReadsOperands (⟨.word f.name, wordPos⟩ :: as) (.function f :: os) :=
        (reads_function f wordPos).append has.reads
      exact hp.snoc (ReadsOperands.command (c := .mk (.function f) os) hcall) pos
    · have hcall : ReadsOperands
          (⟨.word f.name, wordPos'⟩ :: (bs ++ ⟨.leftParen, l⟩ :: (ys ++ [⟨.rightParen, r⟩])))
          (.function f :: (os ++ [.group q])) :=
        (reads_function f wordPos').append ((has.reads.relocate he).append (hq.group l r))
      exact (ReadsOperands.command (c := .mk (.function f) (os ++ [.group q])) hcall).pipeline

/-- There are items, and they begin with no word but the name of a function. -/
def BeginsValue (xs : List Placed) : Prop :=
  ∃ t r, xs = t :: r ∧ ∀ w, t.item = .word w → ∃ f, Builtin.ofName? w = some f

theorem IsPipeline.beginsValue {d : Nat} {xs : List Placed} {p : Pipeline}
    (h : IsPipeline d xs p) : BeginsValue xs := by
  obtain ⟨⟨item, pos⟩, r, rfl⟩ := List.exists_cons_of_ne_nil h.ne_nil
  refine ⟨_, r, rfl, ?_⟩
  rintro w ⟨⟩
  exact h.head_word

theorem BeginsValue.append {xs : List Placed} (h : BeginsValue xs) (ys : List Placed) :
    BeginsValue (xs ++ ys) := by
  obtain ⟨t, r, rfl, ht⟩ := h
  exact ⟨t, r ++ ys, rfl, ht⟩

theorem beginsValue_function (f : Builtin) (pos : Nat) (r : List Placed) :
    BeginsValue (⟨.word f.name, pos⟩ :: r) := by
  refine ⟨_, r, rfl, ?_⟩
  rintro w ⟨⟩
  exact ⟨f, by cases f <;> rfl⟩

theorem Nests.beginsValue {xs ys : List Placed} (h : Nests xs ys) :
    BeginsValue xs ∧ BeginsValue ys := by
  induction h with
  | pipeline hp he => exact ⟨hp.beginsValue, (hp.relocate he).beginsValue⟩
  | call _ _ _ ih => exact ⟨ih.1.append _, beginsValue_function ..⟩

end AlertRelay.Template
