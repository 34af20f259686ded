import AlertRelay.Proofs.Template.Grammar

/-!
Pipelines are read exactly as the grammar has them. What is known of the items read so far is
carried along from item to item; the other way round, the items of each phrase of the grammar are
followed through the reader.
-/

namespace AlertRelay.Template

variable {ε σ τ : Type}

/-- What each step keeps for the steps taken so far, a whole run keeps. -/
theorem foldlM_keeps {step : σ → τ → Except ε σ} {P : List τ → σ → Prop}
    (keeps : ∀ {xs s t s'}, P xs s → step s t = .ok s' → P (xs ++ [t]) s')
    {xs ys : List τ} {s s' : σ} (hs : P xs s) (h : ys.foldlM step s = .ok s') :
    P (xs ++ ys) s' := by
  induction ys generalizing xs s with
  | nil =>
    cases h
    simpa using hs
  | cons t ys ih =>
    rw [List.foldlM_cons] at h
    cases ht : step s t with
    | error e =>
      rw [ht] at h
      cases h
    | ok s₁ =>
      rw [ht] at h
      have := ih (keeps hs ht) h
      simpa using this

theorem foldlM_append_ok {step : σ → τ → Except ε σ} {xs ys : List τ} {s s₁ s₂ : σ}
    (h₁ : xs.foldlM step s = .ok s₁) (h₂ : ys.foldlM step s₁ = .ok s₂) :
    (xs ++ ys).foldlM step s = .ok s₂ := by
  rw [List.foldlM_append, h₁]
  exact h₂

theorem foldlM_cons_ok {step : σ → τ → Except ε σ} {x : τ} {ys : List τ} {s s₁ s₂ : σ}
    (h₁ : step s x = .ok s₁) (h₂ : ys.foldlM step s₁ = .ok s₂) :
    (x :: ys).foldlM step s = .ok s₂ := by
  rw [List.foldlM_cons, h₁]
  exact h₂

theorem exists_of_foldlM_append {step : σ → τ → Except ε σ} {xs ys : List τ}
    {s s₂ : σ} (h : (xs ++ ys).foldlM step s = .ok s₂) :
    ∃ s₁, xs.foldlM step s = .ok s₁ ∧ ys.foldlM step s₁ = .ok s₂ := by
  rw [List.foldlM_append] at h
  cases hx : xs.foldlM step s with
  | error e =>
    rw [hx] at h
    cases h
  | ok s₁ =>
    rw [hx] at h
    exact ⟨s₁, rfl, h⟩

theorem exists_of_foldlM_cons {step : σ → τ → Except ε σ} {x : τ} {ys : List τ}
    {s s₂ : σ} (h : (x :: ys).foldlM step s = .ok s₂) :
    ∃ s₁, step s x = .ok s₁ ∧ ys.foldlM step s₁ = .ok s₂ := by
  rw [List.foldlM_cons] at h
  cases hx : step s x with
  | error e =>
    rw [hx] at h
    cases h
  | ok s₁ =>
    rw [hx] at h
    exact ⟨s₁, rfl, h⟩

namespace Draft

theorem command?_eq_some_iff {s : Draft} {o : Operand} {os : List Operand} :
    s.command? = some (.mk o os) ↔ s.operands.reverse = o :: os := by
  unfold command?
  split <;> simp_all

theorem pipeline?_eq_some_iff {s : Draft} {c : Command} {cs : List Command} :
    s.pipeline? = some (.mk c cs) ↔
      ∃ c', s.command? = some c' ∧ (c' :: s.commands).reverse = c :: cs := by
  unfold pipeline?
  rw [Option.map_eq_some_iff]
  refine exists_congr fun c' => and_congr_right fun _ => ?_
  rw [List.reverse_cons]
  split <;> simp_all

end Draft

/-- The operands of a command that is not finished, last first. -/
inductive IsRow (d : Nat) : List Placed → List Operand → Prop
  | empty : IsRow d [] []
  | command {items o os} : IsCommand d items (.mk o os) → IsRow d items (o :: os).reverse

/-- The commands before a pipe, last first. -/
inductive IsPiped (d : Nat) : List Placed → List Command → Prop
  | empty : IsPiped d [] []
  | pipeline {items pos c cs} : IsPipeline d items (.mk c cs) →
      IsPiped d (items ++ [⟨.pipe, pos⟩]) (c :: cs).reverse

/-- A draft, and the items that it was read from. -/
inductive IsDraft (d : Nat) : List Placed → Draft → Prop
  | mk {xs ys commands operands} : IsPiped d xs commands → IsRow d ys operands →
      IsDraft d (xs ++ ys) ⟨commands, operands⟩

theorem IsDraft.start (d : Nat) : IsDraft d [] .empty := .mk .empty .empty

theorem IsRow.push {d : Nat} {xs ys : List Placed} {os : List Operand} {o : Operand}
    (h : IsRow d xs os) (ho : IsOperand d ys o) : IsRow d (xs ++ ys) (o :: os) := by
  cases h with
  | empty => exact .command (.one ho)
  | command hc => simpa using IsRow.command (.more hc ho)

theorem IsDraft.push {d : Nat} {xs ys : List Placed} {s : Draft} {o : Operand}
    (h : IsDraft d xs s) (ho : IsOperand d ys o) : IsDraft d (xs ++ ys) (s.push o) := by
  cases h with
  | mk hp hr =>
    rw [List.append_assoc]
    exact .mk hp (hr.push ho)

theorem IsRow.command? {d : Nat} {xs : List Placed} {s : Draft} {c : Command}
    (h : IsRow d xs s.operands) (hc : s.command? = some c) : IsCommand d xs c := by
  obtain ⟨o, os⟩ := c
  rw [Draft.command?_eq_some_iff] at hc
  generalize s.operands = operands at h hc
  cases h with
  | empty => cases hc
  | command h =>
    rw [List.reverse_reverse] at hc
    cases hc
    exact h

theorem IsPiped.command {d : Nat} {xs ys : List Placed} {cs : List Command} {c c₀ : Command}
    {cs₀ : List Command} (h : IsPiped d xs cs) (hc : IsCommand d ys c)
    (he : (c :: cs).reverse = c₀ :: cs₀) : IsPipeline d (xs ++ ys) (.mk c₀ cs₀) := by
  cases h with
  | empty =>
    cases he
    exact .one hc
  | pipeline hp =>
    rw [List.reverse_cons, List.reverse_reverse] at he
    cases he
    simpa using IsPipeline.more hp hc

theorem IsDraft.pipeline? {d : Nat} {xs : List Placed} {s : Draft} {p : Pipeline}
    (h : IsDraft d xs s) (hp : s.pipeline? = some p) : IsPipeline d xs p := by
  obtain ⟨c, cs⟩ := p
  obtain ⟨c', hc, he⟩ := Draft.pipeline?_eq_some_iff.mp hp
  cases h with
  | mk hpiped hrow => exact hpiped.command (hrow.command? hc) he

theorem IsDraft.pipe {d : Nat} {xs : List Placed} {s : Draft} {c : Command} {pos : Nat}
    (h : IsDraft d xs s) (hc : s.command? = some c) :
    IsDraft d (xs ++ [⟨.pipe, pos⟩]) ⟨c :: s.commands, []⟩ := by
  obtain ⟨c₀, cs₀, he⟩ : ∃ c₀ cs₀, (c :: s.commands).reverse = c₀ :: cs₀ :=
    List.exists_cons_of_ne_nil (by simp)
  have hp := h.pipeline? (Draft.pipeline?_eq_some_iff.mpr ⟨c, hc, he⟩)
  have hpiped : IsPiped d (xs ++ [⟨.pipe, pos⟩]) (c₀ :: cs₀).reverse := .pipeline hp
  have := IsDraft.mk hpiped .empty
  rwa [List.append_nil, ← he, List.reverse_reverse] at this

/-- Drafts that wait for a parenthesis to close, and the items that they were read from. -/
inductive IsDrafts (depth : Nat) : List Placed → Drafts → Prop
  | inner {items s} : IsDraft depth items s → IsDrafts depth items ⟨s, []⟩
  | nested {items items' pos s outer rest} : IsDrafts depth items ⟨outer, rest⟩ →
      depth + rest.length < depthLimit → IsDraft (depth + (rest.length + 1)) items' s →
      IsDrafts depth (items ++ ⟨.leftParen, pos⟩ :: items') ⟨s, outer :: rest⟩

/-- What comes in at the innermost draft leaves the ones around it alone. -/
theorem IsDrafts.replace {depth : Nat} {xs ys : List Placed} {s : Drafts} {inner : Draft}
    (h : IsDrafts depth xs s)
    (hs : ∀ {zs}, IsDraft (depth + s.outer.length) zs s.inner →
      IsDraft (depth + s.outer.length) (zs ++ ys) inner) :
    IsDrafts depth (xs ++ ys) { s with inner } := by
  cases h with
  | inner h => exact .inner (hs h)
  | nested hrest hlt h =>
    rw [List.append_assoc, List.cons_append]
    exact .nested hrest hlt (hs h)

theorem IsDrafts.push {depth : Nat} {xs ys : List Placed} {s : Drafts} {o : Operand}
    (h : IsDrafts depth xs s) (ho : IsOperand (depth + s.outer.length) ys o) :
    IsDrafts depth (xs ++ ys) (s.push o) :=
  h.replace fun hd => hd.push ho

theorem IsDrafts.step {depth : Nat} {xs : List Placed} {s s' : Drafts} {t : Placed}
    (h : IsDrafts depth xs s) (hs : s.step depth t = .ok s') : IsDrafts depth (xs ++ [t]) s' := by
  obtain ⟨item, pos⟩ := t
  unfold Drafts.step at hs
  cases item with
  | field root names =>
    cases hs
    exact h.push .field
  | dot =>
    cases hs
    exact h.push .dot
  | constant c =>
    cases hs
    exact h.push .constant
  | word name =>
    dsimp only at hs
    split at hs
    · next f hf =>
      cases hs
      exact h.push (.function hf)
    · cases hs
  | pipe =>
    dsimp only at hs
    split at hs
    · next c hc =>
      cases hs
      exact h.replace fun hd => hd.pipe hc
    · cases hs
  | leftParen =>
    dsimp only at hs
    split at hs
    · cases hs
    · next hlt =>
      cases hs
      exact .nested h (Nat.lt_of_not_le hlt) (.start _)
  | rightParen =>
    dsimp only at hs
    split at hs
    · cases hs
    · next p hp =>
      split at hs
      · cases hs
      · next outer rest ho =>
        cases hs
        cases h with
        | inner _ => cases ho
        | nested hrest hlt hd =>
          cases ho
          rw [List.append_assoc, List.cons_append]
          exact hrest.push (.group hlt (hd.pipeline? hp))

/-- A pipeline that is read to its end is one of the grammar. -/
theorem isPipeline_of_readPipeline {depth close : Nat} {items : List Placed} {p : Pipeline}
    (h : readPipeline depth close items = .ok p) : IsPipeline depth items p := by
  unfold readPipeline at h
  cases hs : items.foldlM (Drafts.step depth) .start with
  | error e =>
    rw [hs] at h
    cases h
  | ok s =>
    rw [hs] at h
    have hd : IsDrafts depth items s :=
      foldlM_keeps IsDrafts.step (IsDrafts.inner (.start depth)) hs
    change s.finish close = .ok p at h
    unfold Drafts.finish at h
    split at h
    · cases h
    · next p' hp =>
      split at h
      · cases h
        cases hd with
        | inner hd => exact hd.pipeline? hp
        | nested _ _ _ => contradiction
      · cases h

/-!
The items of a phrase, read after any others.
-/

mutual

theorem IsOperand.read {d depth : Nat} {items : List Placed} {o : Operand}
    (h : IsOperand d items o) : ∀ s : Drafts, depth + s.outer.length = d →
      items.foldlM (Drafts.step depth) s = .ok (s.push o) :=
  match h with
  | .field | .dot | .constant => fun s _ => rfl
  | .function hf => fun s _ => by simp [Drafts.step, hf]
  | .group hlt hp => by
    intro s hd
    have hd' : depth + (s.inner :: s.outer).length = d + 1 := by
      rw [List.length_cons, ← Nat.add_assoc, hd]
    obtain ⟨s', hs', ho, hp'⟩ := hp.read ⟨.empty, s.inner :: s.outer⟩ hd' rfl
    have hopen (l : Nat) : Drafts.step depth s ⟨.leftParen, l⟩ =
        .ok ⟨.empty, s.inner :: s.outer⟩ := by
      simp [Drafts.step, hd, hlt]
    refine foldlM_cons_ok (hopen _) (foldlM_append_ok hs' ?_)
    simp [Drafts.step, hp', ho, Drafts.push]

theorem IsCommand.read {d depth : Nat} {items : List Placed} {c : Command}
    (h : IsCommand d items c) : ∀ s : Drafts, depth + s.outer.length = d →
      s.inner.operands = [] →
      ∃ inner : Draft, items.foldlM (Drafts.step depth) s = .ok { s with inner } ∧
        inner.commands = s.inner.commands ∧ inner.command? = some c :=
  match h with
  | .one ho => by
    intro s hd hs
    refine ⟨_, ho.read s hd, rfl, ?_⟩
    rw [Draft.command?_eq_some_iff]
    simp [Draft.push, hs]
  | .more hc ho => by
    intro s hd hs
    obtain ⟨inner, hr, hcs, hos⟩ := hc.read s hd hs
    refine ⟨_, foldlM_append_ok hr (ho.read _ hd), hcs, ?_⟩
    rw [Draft.command?_eq_some_iff] at hos ⊢
    simp [Draft.push, hos]

theorem IsPipeline.read {d depth : Nat} {items : List Placed} {p : Pipeline}
    (h : IsPipeline d items p) : ∀ s : Drafts, depth + s.outer.length = d → s.inner = .empty →
      ∃ s' : Drafts, items.foldlM (Drafts.step depth) s = .ok s' ∧
        s'.outer = s.outer ∧ s'.inner.pipeline? = some p :=
  match h with
  | .one hc => by
    intro s hd hs
    obtain ⟨inner, hr, hcs, hos⟩ := hc.read s hd (by rw [hs]; rfl)
    refine ⟨_, hr, rfl, ?_⟩
    rw [Draft.pipeline?_eq_some_iff]
    exact ⟨_, hos, by rw [hcs, hs]; rfl⟩
  | .more hp hc => by
    intro s hd hs
    obtain ⟨s₁, hr, ho, hp₁⟩ := hp.read s hd hs
    obtain ⟨c', hc', hcs⟩ := Draft.pipeline?_eq_some_iff.mp hp₁
    obtain ⟨inner, hr', hcs', hos⟩ := hc.read ⟨⟨c' :: s₁.inner.commands, []⟩, s₁.outer⟩
      (by rw [ho]; exact hd) rfl
    refine ⟨_, foldlM_append_ok hr (foldlM_cons_ok ?_ hr'), ho, ?_⟩
    · simp [Drafts.step, hc']
    · rw [Draft.pipeline?_eq_some_iff]
      exact ⟨_, hos, by rw [hcs', List.reverse_cons, hcs]; rfl⟩

end

theorem readPipeline_of_isPipeline {depth : Nat} {items : List Placed} {p : Pipeline}
    (h : IsPipeline depth items p) (close : Nat) : readPipeline depth close items = .ok p := by
  obtain ⟨s, hr, ho, hp⟩ := h.read .start rfl rfl
  unfold readPipeline
  rw [hr]
  change s.finish close = .ok p
  simp [Drafts.finish, hp, ho, Drafts.start]

theorem readPipeline_eq_ok_iff {depth close : Nat} {items : List Placed} {p : Pipeline} :
    readPipeline depth close items = .ok p ↔ IsPipeline depth items p :=
  ⟨isPipeline_of_readPipeline, (readPipeline_of_isPipeline · close)⟩

end AlertRelay.Template
