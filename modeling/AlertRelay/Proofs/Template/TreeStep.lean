import AlertRelay.Proofs.Template.PipelineReading

/-!
What one piece of a source does to a tree of which a part is read.
-/

namespace AlertRelay.Template

theorem IsPipeline.ne_nil {d : Nat} {items : List Placed} {p : Pipeline}
    (h : IsPipeline d items p) : items ≠ [] := by
  rintro rfl
  have := readPipeline_of_isPipeline h 0
  cases this

/-- A pipeline that begins with a word begins with the name of a function. -/
theorem IsPipeline.head_word {d pos : Nat} {w : String} {items : List Placed} {p : Pipeline}
    (h : IsPipeline d (⟨.word w, pos⟩ :: items) p) : ∃ f, Builtin.ofName? w = some f := by
  have hr := readPipeline_of_isPipeline h 0
  cases hf : Builtin.ofName? w with
  | some f => exact ⟨f, rfl⟩
  | none =>
    have hs : Drafts.step d .start ⟨.word w, pos⟩ = .error (pos, .unknownFunction w) := by
      simp [Drafts.step, hf]
    unfold readPipeline at hr
    rw [List.foldlM_cons, hs] at hr
    cases hr

theorem Builtin.ofName?_eq_some {w : String} {f : Builtin} (h : Builtin.ofName? w = some f) :
    w = f.name := by
  have := List.find?_some h
  simpa using (beq_iff_eq.mp this).symm

theorem Keyword.ofName?_eq_some {w : String} {k : Keyword} (h : Keyword.ofName? w = some k) :
    w = k.name := by
  have := List.find?_some h
  simpa using (beq_iff_eq.mp this).symm

/-- The tree after a block is complete: with a chained block the one around it is too. -/
def Frame.close (f : Frame) (n : Node) (frames : List Frame) : Growth :=
  if f.chained then Growth.closeBlock (n :: f.before) frames else ⟨n :: f.before, frames⟩

namespace Growth

theorem closeBlock_cons (nodes : List Node) (f : Frame) (frames : List Frame) :
    closeBlock nodes (f :: frames) = f.close (f.node nodes) frames := rfl

theorem openBlock_eq_ok_iff {source : List Char} {g g' : Growth} {k : Keyword} {chained : Bool}
    {pos headPos close stop : Nat} {items : List Placed} :
    openBlock source g k chained pos headPos items close stop = .ok g' ↔
      g.frames.length < depthLimit ∧ ∃ p, IsPipeline (g.frames.length + 1) items p ∧
        g' = ⟨[], ⟨k, headPos, ⟨pos, excerpt source pos stop⟩, p, chained, g.nodes, none⟩ ::
          g.frames⟩ := by
  constructor
  · intro h
    unfold openBlock at h
    split at h
    · cases h
    · next hlt =>
      split at h
      · cases h
      · cases hp : readPipeline (g.frames.length + 1) close items with
        | error e =>
          rw [hp] at h
          cases h
        | ok p =>
          rw [hp] at h
          cases h
          exact ⟨Nat.lt_of_not_le hlt, p, readPipeline_eq_ok_iff.mp hp, rfl⟩
  · rintro ⟨hlt, p, hp, rfl⟩
    have hne : items.isEmpty = false := by simpa using hp.ne_nil
    unfold openBlock
    rw [if_neg (Nat.not_le.mpr hlt), hne, readPipeline_of_isPipeline hp]
    rfl

theorem expectClose_eq_ok_iff {rest : List Placed} : expectClose rest = .ok () ↔ rest = [] := by
  cases rest <;> simp [expectClose]

theorem continuation?_eq_some_iff {k : Keyword} {rest items : List Placed} {pos : Nat} :
    continuation? k rest = some (pos, items) ↔
      k.chains = true ∧ rest = ⟨.word k.name, pos⟩ :: items := by
  unfold continuation?
  split
  · next w pos' rest' =>
    split
    · next h =>
      rw [Bool.and_eq_true, beq_iff_eq] at h
      simp [h.1, h.2]
    · next h =>
      rw [Bool.and_eq_true, beq_iff_eq] at h
      simp only [reduceCtorEq, List.cons.injEq, Placed.mk.injEq, Item.word.injEq, false_iff]
      rintro ⟨hc, ⟨rfl, -⟩, -⟩
      exact h ⟨rfl, hc⟩
  · next h =>
    simp only [reduceCtorEq, false_iff]
    rintro ⟨-, rfl⟩
    exact h _ _ _ rfl

end Growth

/-- All that one piece can do to a tree. -/
inductive Grows (source : List Char) (g : Growth) : Piece → Growth → Prop
  | text {pos content} : Grows source g (.text pos content) (g.push (.text content))
  | action {a p} : IsPipeline g.frames.length a.items p →
      Grows source g (.action a) (g.push (.action ⟨a.pos, Growth.excerpt source a.pos a.stop⟩ p))
  | block {k pos headPos items close stop p} : g.frames.length < depthLimit →
      IsPipeline (g.frames.length + 1) items p →
      Grows source g (.action ⟨pos, ⟨.word k.name, headPos⟩ :: items, close, stop⟩)
        ⟨[], ⟨k, headPos, ⟨pos, Growth.excerpt source pos stop⟩, p, false, g.nodes, none⟩ ::
          g.frames⟩
  | finish {f frames pos wordPos close stop} : g.frames = f :: frames →
      Grows source g (.action ⟨pos, [⟨.word "end", wordPos⟩], close, stop⟩)
        (f.close (f.node g.nodes) frames)
  | otherwise {f frames pos wordPos close stop} : g.frames = f :: frames → f.body? = none →
      Grows source g (.action ⟨pos, [⟨.word "else", wordPos⟩], close, stop⟩)
        ⟨[], { f with body? := some g.nodes.reverse } :: frames⟩
  | chain {f frames pos elsePos headPos items close stop p} : g.frames = f :: frames →
      f.body? = none → f.keyword.chains = true → frames.length + 1 < depthLimit →
      IsPipeline (frames.length + 2) items p →
      Grows source g
        (.action ⟨pos, ⟨.word "else", elsePos⟩ :: ⟨.word f.keyword.name, headPos⟩ :: items, close,
          stop⟩)
        ⟨[],
          ⟨f.keyword, headPos, ⟨elsePos, Growth.excerpt source elsePos stop⟩, p, true, [], none⟩ ::
            { f with body? := some g.nodes.reverse } :: frames⟩

namespace Growth

variable {source : List Char} {g g' : Growth}

theorem readAction_eq_ok_iff {a : Action} :
    readAction source g a = .ok g' ↔ ∃ p, IsPipeline g.frames.length a.items p ∧
      g' = g.push (.action ⟨a.pos, excerpt source a.pos a.stop⟩ p) := by
  unfold readAction
  constructor
  · intro h
    cases hp : readPipeline g.frames.length a.close a.items with
    | error e =>
      rw [hp] at h
      cases h
    | ok p =>
      rw [hp] at h
      cases h
      exact ⟨p, readPipeline_eq_ok_iff.mp hp, rfl⟩
  · rintro ⟨p, hp, rfl⟩
    rw [readPipeline_of_isPipeline hp]
    rfl

theorem readEnd_grows {pos close stop wordPos : Nat} {rest : List Placed}
    (h : readEnd g wordPos rest = .ok g') :
    Grows source g (.action ⟨pos, ⟨.word "end", wordPos⟩ :: rest, close, stop⟩) g' := by
  unfold readEnd at h
  split at h
  · cases h
  · next frames hne =>
    obtain ⟨f, fs, hf⟩ := List.exists_cons_of_ne_nil hne
    cases hc : expectClose rest with
    | error e =>
      rw [hc] at h
      cases h
    | ok u =>
      rw [hc] at h
      cases h
      cases expectClose_eq_ok_iff.mp hc
      rw [hf, closeBlock_cons]
      exact .finish hf

theorem readElse_grows {pos close stop wordPos : Nat} {rest : List Placed}
    (h : readElse source g wordPos rest close stop = .ok g') :
    Grows source g (.action ⟨pos, ⟨.word "else", wordPos⟩ :: rest, close, stop⟩) g' := by
  unfold readElse at h
  split at h
  · cases h
  · next f frames hf =>
    split at h
    · cases h
    · next hb =>
      dsimp only at h
      split at h
      · next headPos items hc =>
        obtain ⟨hk, rfl⟩ := continuation?_eq_some_iff.mp hc
        obtain ⟨hlt, p, hp, rfl⟩ := openBlock_eq_ok_iff.mp h
        exact .chain hf hb hk hlt hp
      · cases hc : expectClose rest with
        | error e =>
          rw [hc] at h
          cases h
        | ok u =>
          rw [hc] at h
          cases h
          cases expectClose_eq_ok_iff.mp hc
          exact .otherwise hf hb

theorem grows_of_step {x : Piece} (h : step source g x = .ok g') : Grows source g x g' := by
  have action {a : Action} (h : readAction source g a = .ok g') :
      Grows source g (.action a) g' := by
    obtain ⟨p, hp, rfl⟩ := readAction_eq_ok_iff.mp h
    exact .action hp
  unfold step at h
  split at h
  · cases h
    exact .text
  · next a =>
    obtain ⟨pos, items, close, stop⟩ := a
    split at h
    · next w wordPos rest hi =>
      cases hi
      split at h
      · next he =>
        rw [beq_iff_eq] at he
        subst he
        exact readEnd_grows h
      · split at h
        · next he =>
          rw [beq_iff_eq] at he
          subst he
          exact readElse_grows h
        · split at h
          · next k hk =>
            cases Keyword.ofName?_eq_some hk
            obtain ⟨hlt, p, hp, rfl⟩ := openBlock_eq_ok_iff.mp h
            exact .block hlt hp
          · split at h
            · cases h
            · exact action h
    · exact action h

/-- The name of a function opens an action that writes a value, as no block begins with it. -/
theorem step_function {pos headPos close stop : Nat} {f : Builtin} {items : List Placed} :
    step source g (.action ⟨pos, ⟨.word f.name, headPos⟩ :: items, close, stop⟩) =
      readAction source g ⟨pos, ⟨.word f.name, headPos⟩ :: items, close, stop⟩ := by
  cases f <;> rfl

theorem step_keyword {pos headPos close stop : Nat} {k : Keyword} {items : List Placed} :
    step source g (.action ⟨pos, ⟨.word k.name, headPos⟩ :: items, close, stop⟩) =
      openBlock source g k false pos headPos items close stop := by
  cases k <;> rfl

theorem step_of_grows {x : Piece} (h : Grows source g x g') : step source g x = .ok g' := by
  cases h with
  | text => rfl
  | @action a p hp =>
    have hr : readAction source g a = .ok _ := readAction_eq_ok_iff.mpr ⟨p, hp, rfl⟩
    obtain ⟨pos, items, close, stop⟩ := a
    rw [← hr]
    match items with
    | [] => rfl
    | ⟨.word w, wordPos⟩ :: rest =>
      obtain ⟨f, hf⟩ := hp.head_word
      cases Builtin.ofName?_eq_some hf
      exact step_function
    | ⟨.pipe, _⟩ :: _ | ⟨.leftParen, _⟩ :: _ | ⟨.rightParen, _⟩ :: _ | ⟨.dot, _⟩ :: _
    | ⟨.field _ _, _⟩ :: _ | ⟨.constant _, _⟩ :: _ => rfl
  | block hlt hp =>
    rw [step_keyword]
    exact openBlock_eq_ok_iff.mpr ⟨hlt, _, hp, rfl⟩
  | @finish f frames pos wordPos close stop hf =>
    change readEnd g wordPos [] = _
    rw [readEnd, hf]
    rfl
  | @otherwise f frames pos wordPos close stop hf hb =>
    change readElse source g wordPos [] close stop = _
    rw [readElse, hf]
    dsimp only
    rw [hb]
    rfl
  | @chain f frames pos elsePos headPos items close stop p hf hb hk hlt hp =>
    change readElse source g elsePos _ close stop = _
    rw [readElse, hf]
    dsimp only
    rw [hb, continuation?_eq_some_iff.mpr ⟨hk, rfl⟩]
    exact openBlock_eq_ok_iff.mpr ⟨hlt, p, hp, rfl⟩

theorem step_eq_ok_iff {x : Piece} : step source g x = .ok g' ↔ Grows source g x g' :=
  ⟨grows_of_step, step_of_grows⟩

end Growth

end AlertRelay.Template
