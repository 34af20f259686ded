import AlertRelay.Proofs.Template.Covering
import AlertRelay.Proofs.Template.Faults

/-!
Where the pipelines of a tree stand in its source. Each belongs to an action of it.
-/

namespace AlertRelay.Template

/-- The stations that an action can bear: its own, that of a block it begins, and that of a block it
goes on with from an `else`. The last stands at the word, not at the delimiter before it. -/
inductive Action.Bears (source : List Char) (a : Action) : Station → Prop
  | value {d p} : IsPipeline d a.items p →
      Bears source a ⟨none, ⟨a.pos, Growth.excerpt source a.pos a.stop⟩, p⟩
  | block {k wordPos items d p} : a.items = ⟨.word k.name, wordPos⟩ :: items →
      IsPipeline d items p →
      Bears source a ⟨some k, ⟨a.pos, Growth.excerpt source a.pos a.stop⟩, p⟩
  | chain {k elsePos wordPos items d p} :
      a.items = ⟨.word "else", elsePos⟩ :: ⟨.word k.name, wordPos⟩ :: items →
      IsPipeline d items p →
      Bears source a ⟨some k, ⟨elsePos, Growth.excerpt source elsePos a.stop⟩, p⟩

/-- A station is borne by an action among the tokens. -/
def IsBorne (source : List Char) (ts : List Token) (s : Station) : Prop :=
  ∃ a, (Piece.action a).tokens <:+: ts ∧ a.Bears source s

variable {source : List Char}

theorem IsBorne.mono {ts us : List Token} {s : Station} (h : IsBorne source ts s)
    (hi : ts <:+: us) : IsBorne source us s := by
  obtain ⟨a, ha, hs⟩ := h
  exact ⟨a, ha.trans hi, hs⟩

/-- An action before other tokens bears a station, or they do. -/
theorem isBorne_cons {pos close stop : Nat} {items : List Placed} {ts : List Token} {s : Station}
    (h : Action.Bears source ⟨pos, items, close, stop⟩ s ∨ IsBorne source ts s) :
    IsBorne source (.opening pos :: (items.map .item ++ .closing close stop :: ts)) s := by
  have htokens : .opening pos :: (items.map .item ++ .closing close stop :: ts) =
      (Piece.action ⟨pos, items, close, stop⟩).tokens ++ ts := by
    simp [Piece.tokens]
  rw [htokens]
  rcases h with h | h
  · exact ⟨_, (List.prefix_append ..).isInfix, h⟩
  · exact h.mono (List.suffix_append ..).isInfix

mutual

theorem IsTemplate.isBorne {d : Nat} {ts : List Token} {ns : List Node}
    (h : IsTemplate source d ts ns) : ∀ s ∈ stationsOf ns, IsBorne source ts s :=
  match h with
  | .nil => fun _ hs => nomatch hs
  | .text hrest => fun s hs => (hrest.isBorne s hs).mono (List.suffix_cons ..).isInfix
  | .action hp hrest => by
    have hrest := hrest.isBorne
    intro s hs
    rcases List.mem_cons.mp hs with rfl | hs
    · exact isBorne_cons (.inl (.value hp))
    · exact isBorne_cons (.inr (hrest s hs))
  | @IsTemplate.block _ _ k pos wordPos _ _ ts _ _ hr hrest => by
    obtain ⟨items, close, stop, p, rest, rfl, hp, hr⟩ := hr.isBorne
    have hrest := hrest.isBorne
    intro s hs
    have hborne : IsBorne source (.opening pos :: (List.map Token.item
        (⟨.word k.name, wordPos⟩ :: items) ++ .closing close stop :: (rest ++ ts))) s := by
      refine isBorne_cons ?_
      rcases List.mem_append.mp hs with hs | hs
      · rcases hr s hs with rfl | hs
        · exact .inl (.block rfl hp)
        · exact .inr (hs.mono (List.prefix_append ..).isInfix)
      · exact .inr ((hrest s hs).mono (List.suffix_append ..).isInfix)
    simpa [Token.word] using hborne

theorem IsRest.isBorne {k : Keyword} {d pos : Nat} {ts : List Token} {n : Node}
    (h : IsRest source k d pos ts n) : ∃ items close stop p rest,
      ts = items.map .item ++ .closing close stop :: rest ∧ IsPipeline d items p ∧
      ∀ s ∈ n.stations, s = ⟨some k, ⟨pos, Growth.excerpt source pos stop⟩, p⟩ ∨
        IsBorne source rest s :=
  match h with
  | @IsRest.mk _ _ _ _ items close stop p _ _ _ _ hp hbody htail => by
    have hbody := hbody.isBorne
    have htail := htail.isBorne
    refine ⟨items, close, stop, p, _, rfl, hp, fun s hs => ?_⟩
    rcases List.mem_cons.mp hs with rfl | hs
    · exact .inl rfl
    · rcases List.mem_append.mp hs with hs | hs
      · exact .inr ((hbody s hs).mono (List.prefix_append ..).isInfix)
      · exact .inr ((htail s hs).mono (List.suffix_append ..).isInfix)

theorem IsTail.isBorne {k : Keyword} {d : Nat} {ts : List Token} {ns : List Node}
    (h : IsTail source k d ts ns) : ∀ s ∈ stationsOf ns, IsBorne source ts s :=
  match h with
  | .done _ => fun _ hs => nomatch hs
  | @IsTail.otherwise _ _ _ pos wordPos close stop ts _ tail hbody _ => by
    have hbody := hbody.isBorne
    intro s hs
    exact (hbody s hs).mono
      ⟨[.opening pos, .word "else" wordPos, .closing close stop], tail, by simp⟩
  | @IsTail.chain _ k _ pos elsePos wordPos _ _ _ _ hr => by
    obtain ⟨items, close, stop, p, rest, rfl, hp, hr⟩ := hr.isBorne
    intro s hs
    rw [stationsOf, stationsOf, List.append_nil] at hs
    have hborne : IsBorne source (.opening pos :: (List.map Token.item
        (⟨.word "else", elsePos⟩ :: ⟨.word k.name, wordPos⟩ :: items) ++
          .closing close stop :: rest)) s := by
      refine isBorne_cons ?_
      rcases hr s hs with rfl | hs
      · exact .inl (.chain rfl hp)
      · exact .inr hs
    simpa [Token.word] using hborne

end

/-- Tokens that look like those of an action are those of one. -/
theorem mem_of_action_tokens {a : Action} {ps : List Piece}
    (h : (Piece.action a).tokens <:+: tokens ps) : .action a ∈ ps := by
  obtain ⟨xs, ys, h⟩ := h
  rw [Piece.tokens, List.append_assoc, List.cons_append, List.append_assoc] at h
  induction ps generalizing xs with
  | nil => simp [tokens] at h
  | cons p ps ih =>
    cases p with
    | text pos content =>
      cases xs with
      | nil => cases h
      | cons x xs => exact List.mem_cons_of_mem _ (ih xs (List.cons.inj h).2)
    | action b =>
      have hb : tokens (.action b :: ps) =
          .opening b.pos :: (b.items.map .item ++ .closing b.close b.stop :: tokens ps) := by
        simp [tokens, Piece.tokens]
      rw [hb] at h
      cases xs with
      | nil =>
        obtain ⟨hpos, hrest⟩ := List.cons.inj h
        obtain ⟨hitems, hclose, hstop, -⟩ := items_closing_inj hrest
        obtain ⟨pos, items, close, stop⟩ := a
        obtain ⟨pos', items', close', stop'⟩ := b
        cases Token.opening.inj hpos
        cases hitems
        cases hclose
        cases hstop
        exact List.mem_cons_self
      | cons x xs =>
        obtain ⟨zs, hzs⟩ := opening_after_items (List.cons.inj h).2.symm
        exact List.mem_cons_of_mem _ (ih zs hzs.symm)

end AlertRelay.Template
