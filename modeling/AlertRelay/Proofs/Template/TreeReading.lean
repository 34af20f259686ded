import AlertRelay.Proofs.Template.TreeStep

/-!
The pieces of a source are read exactly as the grammar has them: a tree comes of them if and only if
their tokens derive it.
-/

namespace AlertRelay.Template

variable {source : List Char}

theorem IsTemplate.append {d : Nat} {ts ts' : List Token} {ns ns' : List Node}
    (h : IsTemplate source d ts ns) (h' : IsTemplate source d ts' ns') :
    IsTemplate source d (ts ++ ts') (ns ++ ns') :=
  match h with
  | .nil => h'
  | .text ht => .text (ht.append h')
  | .action hp ht => by
    rw [List.cons_append, List.append_assoc]
    exact .action hp (ht.append h')
  | .block hlt hr ht => by
    rw [List.cons_append, List.cons_append, List.append_assoc]
    exact .block hlt hr (ht.append h')

/-- The tokens up to where the innermost part of some open blocks begins. -/
inductive IsOpen (source : List Char) : List Token → List Frame → Prop
  | top : IsOpen source [] []
  | block {ts ts' frames k pos headPos items close stop p before} : IsOpen source ts frames →
      IsTemplate source frames.length ts' before.reverse → frames.length < depthLimit →
      IsPipeline (frames.length + 1) items p →
      IsOpen source
        (ts ++ (ts' ++ .opening pos :: .word k.name headPos ::
          (items.map .item ++ [.closing close stop])))
        (⟨k, headPos, ⟨pos, Growth.excerpt source pos stop⟩, p, false, before, none⟩ :: frames)
  | otherwise {ts ts' f frames body pos wordPos close stop} : IsOpen source ts (f :: frames) →
      f.body? = none → IsTemplate source (frames.length + 1) ts' body →
      IsOpen source (ts ++ (ts' ++ [.opening pos, .word "else" wordPos, .closing close stop]))
        ({ f with body? := some body } :: frames)
  | chain {ts ts' f frames body pos elsePos headPos items close stop p} :
      IsOpen source ts (f :: frames) → f.body? = none →
      IsTemplate source (frames.length + 1) ts' body → f.keyword.chains = true →
      frames.length + 1 < depthLimit → IsPipeline (frames.length + 2) items p →
      IsOpen source
        (ts ++ (ts' ++ .opening pos :: .word "else" elsePos :: .word f.keyword.name headPos ::
          (items.map .item ++ [.closing close stop])))
        (⟨f.keyword, headPos, ⟨elsePos, Growth.excerpt source elsePos stop⟩, p, true, [], none⟩ ::
          { f with body? := some body } :: frames)

/-- A tree of which a part is read, and the tokens it was read from. -/
inductive IsGrown (source : List Char) : List Token → Growth → Prop
  | mk {ts ts' nodes frames} : IsOpen source ts frames →
      IsTemplate source frames.length ts' nodes.reverse → IsGrown source (ts ++ ts') ⟨nodes, frames⟩

/-- The tokens from the part at hand of an open block to the end of the block, which is `n`. -/
inductive Completes (source : List Char) (d : Nat) (f : Frame) : List Token → Node → Prop
  | body {ts ns tail otherwise} : f.body? = none → IsTemplate source d ts ns →
      IsTail source f.keyword d tail otherwise →
      Completes source d f (ts ++ tail) (.block f.keyword f.site f.condition ns otherwise)
  | otherwise {ts ns tail body} : f.body? = some body → IsTemplate source d ts ns → IsEnd tail →
      Completes source d f (ts ++ tail) (.block f.keyword f.site f.condition body ns)

theorem Completes.node {d : Nat} {f : Frame} {ts tail : List Token} {nodes : List Node}
    (h : IsTemplate source d ts nodes.reverse) (he : IsEnd tail) :
    Completes source d f (ts ++ tail) (f.node nodes) := by
  unfold Frame.node
  split
  · next hb => exact .body hb h (.done he)
  · next hb => exact .otherwise hb h he

/-- Once the innermost block is complete, the tokens of the blocks around it go on with it. -/
theorem IsOpen.close {ts us : List Token} {f : Frame} {frames : List Frame} {n : Node}
    (h : IsOpen source ts (f :: frames)) (hc : Completes source (frames.length + 1) f us n) :
    IsGrown source (ts ++ us) (f.close n frames) := by
  generalize hfs : f :: frames = fs at h
  -- A block that goes on from an `else` shares its end with the one around it, which is then
  -- complete as well; so the induction follows the open blocks outwards.
  induction h generalizing us f frames n with
  | top => cases hfs
  | @block ts ts' frames k pos headPos items close stop p before ho ht hlt hp ih =>
    cases hfs
    cases hc with
    | otherwise hb _ _ => cases hb
    | body _ hbody htail =>
      have hr : IsRest source k (frames.length + 1) pos
          (items.map .item ++ .closing close stop :: _) _ := .mk hp hbody htail
      have hb : IsTemplate source frames.length (.opening pos :: .word k.name headPos :: _) _ :=
        .block hlt hr .nil
      have hn := ht.append hb
      rw [← List.reverse_cons] at hn
      have := IsGrown.mk ho hn
      simpa [Frame.close] using this
  | @otherwise ts ts' f₀ frames₀ body pos wordPos close stop ho hb ht ih =>
    cases hfs
    cases hc with
    | body hb' _ _ => cases hb'
    | otherwise hb' hns hend =>
      cases hb'
      have htail : IsTail source f₀.keyword (frames₀.length + 1)
          (.opening pos :: .word "else" wordPos :: .closing close stop :: _) _ :=
        .otherwise hns hend
      have := ih (.body hb ht htail) rfl
      simpa [Frame.close] using this
  | @chain ts ts' f₀ frames₀ body pos elsePos headPos items close stop p ho hb ht hk hlt hp ih =>
    cases hfs
    cases hc with
    | otherwise hb' _ _ => cases hb'
    | body _ hbody htail =>
      have hr : IsRest source f₀.keyword (frames₀.length + 2) elsePos
          (items.map .item ++ .closing close stop :: _) _ := .mk hp hbody htail
      have hchain : IsTail source f₀.keyword (frames₀.length + 1)
          (.opening pos :: .word "else" elsePos :: .word f₀.keyword.name headPos :: _) _ :=
        .chain hk hlt hr
      have := ih (.body hb ht hchain) rfl
      simpa [Frame.close, Growth.closeBlock, Frame.node] using this

theorem IsGrown.step {ts : List Token} {g g' : Growth} {x : Piece} (h : IsGrown source ts g)
    (hg : Grows source g x g') : IsGrown source (ts ++ x.tokens) g' := by
  obtain ⟨ho, ht⟩ := h
  rw [List.append_assoc]
  cases hg with
  | text =>
    refine .mk ho ?_
    rw [List.reverse_cons]
    exact ht.append (.text .nil)
  | action hp =>
    refine .mk ho ?_
    rw [List.reverse_cons]
    exact ht.append (.action hp .nil)
  | block hlt hp =>
    rw [← List.append_nil (_ ++ _)]
    exact .mk (.block ho ht hlt hp) .nil
  | finish hf =>
    cases hf
    exact ho.close (.node ht .mk)
  | otherwise hf hb =>
    cases hf
    rw [← List.append_nil (_ ++ _)]
    exact .mk (.otherwise ho hb ht) .nil
  | chain hf hb hk hlt hp =>
    cases hf
    rw [← List.append_nil (_ ++ _)]
    exact .mk (.chain ho hb ht hk hlt hp) .nil

theorem IsGrown.isTemplate {ts : List Token} {g : Growth} (h : IsGrown source ts g)
    (hf : g.frames = []) : IsTemplate source 0 ts g.nodes.reverse := by
  obtain ⟨ho, ht⟩ := h
  cases hf
  cases ho
  exact ht

theorem tokens_append (ps qs : List Piece) : tokens (ps ++ qs) = tokens ps ++ tokens qs :=
  List.flatMap_append

theorem IsGrown.piece {ps : List Piece} {g : Growth} {x : Piece} {g' : Growth}
    (h : IsGrown source (tokens ps) g) (hx : Growth.step source g x = .ok g') :
    IsGrown source (tokens (ps ++ [x])) g' := by
  rw [tokens_append]
  simpa [tokens] using h.step (Growth.step_eq_ok_iff.mp hx)

/-- A tree that is read to its end is one of the grammar. -/
theorem isTemplate_of_readTree {ps : List Piece} {nodes : List Node}
    (h : readTree source ps = .ok nodes) : IsTemplate source 0 (tokens ps) nodes := by
  unfold readTree at h
  cases hg : ps.foldlM (Growth.step source) .start with
  | error e =>
    rw [hg] at h
    cases h
  | ok g =>
    rw [hg] at h
    have hstart : IsGrown source (tokens []) .start := .mk .top .nil
    have hs : IsGrown source (tokens ps) g :=
      foldlM_keeps (P := fun xs => IsGrown source (tokens xs)) IsGrown.piece hstart hg
    change g.finish = .ok nodes at h
    unfold Growth.finish at h
    split at h
    · next hf =>
      cases h
      exact hs.isTemplate hf
    · split at h <;> cases h

/-!
The pieces of a phrase, read after any others.
-/

theorem IsEnd.read {ts : List Token} (h : IsEnd ts) (source : List Char) : ∃ ps, tokens ps = ts ∧
    ∀ (f : Frame) frames nodes, ps.foldlM (Growth.step source) ⟨nodes, f :: frames⟩ =
      .ok (f.close (f.node nodes) frames) := by
  obtain @⟨pos, wordPos, close, stop⟩ := h
  refine ⟨[.action ⟨pos, [⟨.word "end", wordPos⟩], close, stop⟩], rfl, fun f frames nodes => ?_⟩
  exact foldlM_cons_ok (Growth.step_of_grows (.finish rfl)) rfl

mutual

theorem IsTemplate.read {d : Nat} {ts : List Token} {ns : List Node}
    (h : IsTemplate source d ts ns) : ∃ ps, tokens ps = ts ∧ ∀ g : Growth, g.frames.length = d →
      ps.foldlM (Growth.step source) g = .ok ⟨ns.reverse ++ g.nodes, g.frames⟩ :=
  match h with
  | .nil => ⟨[], rfl, fun _ _ => rfl⟩
  | .text ht => by
    obtain ⟨ps, rfl, hr⟩ := ht.read
    refine ⟨.text _ _ :: ps, rfl, fun g hd => ?_⟩
    rw [foldlM_cons_ok (Growth.step_of_grows .text) (hr _ hd)]
    simp [Growth.push]
  | @IsTemplate.action _ _ pos items close stop _ _ _ hp ht => by
    obtain ⟨ps, rfl, hr⟩ := ht.read
    refine ⟨.action ⟨pos, items, close, stop⟩ :: ps, by simp [tokens, Piece.tokens], fun g hd => ?_⟩
    rw [foldlM_cons_ok (Growth.step_of_grows (.action (by rwa [hd]))) (hr _ hd)]
    simp [Growth.push]
  | @IsTemplate.block _ _ k pos wordPos _ n _ _ hlt hrest ht => by
    obtain ⟨items, close, stop, p, ps, rfl, hp, hb⟩ := hrest.read
    obtain ⟨qs, rfl, hr⟩ := ht.read
    refine ⟨.action ⟨pos, ⟨.word k.name, wordPos⟩ :: items, close, stop⟩ :: (ps ++ qs),
      by simp [tokens, Piece.tokens, Token.word], fun g hd => ?_⟩
    have hopen : Growth.step source g
        (.action ⟨pos, ⟨.word k.name, wordPos⟩ :: items, close, stop⟩) = .ok _ :=
      Growth.step_of_grows (.block (by rwa [hd]) (by rwa [hd]))
    have hbody := hb ⟨k, wordPos, ⟨pos, Growth.excerpt source pos stop⟩, p, false, g.nodes, none⟩
      g.frames rfl rfl rfl rfl (by rw [hd])
    rw [foldlM_cons_ok hopen (foldlM_append_ok hbody (hr ⟨n :: g.nodes, g.frames⟩ hd))]
    simp

theorem IsRest.read {k : Keyword} {d pos : Nat} {ts : List Token} {n : Node}
    (h : IsRest source k d pos ts n) : ∃ items close stop p ps,
      ts = items.map .item ++ .closing close stop :: tokens ps ∧ IsPipeline d items p ∧
      ∀ (f : Frame) frames, f.keyword = k → f.site = ⟨pos, Growth.excerpt source pos stop⟩ →
        f.condition = p → f.body? = none → frames.length + 1 = d →
        ps.foldlM (Growth.step source) ⟨[], f :: frames⟩ = .ok (f.close n frames) :=
  match h with
  | @IsRest.mk _ _ _ _ items close stop p _ _ _ _ hp ht htail => by
    obtain ⟨ps, rfl, hr⟩ := ht.read
    obtain ⟨qs, rfl, hq⟩ := htail.read
    refine ⟨items, close, stop, p, ps ++ qs, by rw [tokens_append], hp, ?_⟩
    intro f frames hk hs hc hb hd
    have hbody := hr ⟨[], f :: frames⟩ hd
    rw [foldlM_append_ok hbody (hq f frames _ hk hb hd)]
    simp [hs, hc]

theorem IsTail.read {k : Keyword} {d : Nat} {ts : List Token} {ns : List Node}
    (h : IsTail source k d ts ns) : ∃ ps, tokens ps = ts ∧
      ∀ (f : Frame) frames nodes, f.keyword = k → f.body? = none → frames.length + 1 = d →
        ps.foldlM (Growth.step source) ⟨nodes, f :: frames⟩ =
          .ok (f.close (.block k f.site f.condition nodes.reverse ns) frames) :=
  match h with
  | .done he => by
    obtain ⟨ps, rfl, hr⟩ := he.read source
    refine ⟨ps, rfl, ?_⟩
    rintro f frames nodes rfl hb -
    rw [hr]
    simp [Frame.node, hb]
  | @IsTail.otherwise _ _ _ pos wordPos close stop _ _ _ ht he => by
    obtain ⟨ps, rfl, hr⟩ := ht.read
    obtain ⟨qs, rfl, hq⟩ := he.read source
    refine ⟨.action ⟨pos, [⟨.word "else", wordPos⟩], close, stop⟩ :: (ps ++ qs),
      by simp [tokens, Piece.tokens, Token.word], ?_⟩
    rintro f frames nodes rfl hb hd
    have helse : Growth.step source ⟨nodes, f :: frames⟩
        (.action ⟨pos, [⟨.word "else", wordPos⟩], close, stop⟩) = .ok _ :=
      Growth.step_of_grows (.otherwise rfl hb)
    have hbody := hr ⟨[], { f with body? := some nodes.reverse } :: frames⟩ hd
    rw [foldlM_cons_ok helse (foldlM_append_ok hbody (hq _ _ _))]
    simp [Frame.node, Frame.close]
  | @IsTail.chain _ _ _ pos elsePos wordPos _ _ hk hlt hrest => by
    obtain ⟨items, close, stop, p, ps, rfl, hp, hb'⟩ := hrest.read
    refine ⟨.action ⟨pos, ⟨.word "else", elsePos⟩ :: ⟨.word k.name, wordPos⟩ :: items, close,
      stop⟩ :: ps, by simp [tokens, Piece.tokens, Token.word], ?_⟩
    rintro f frames nodes rfl hb rfl
    have hchain : Growth.step source ⟨nodes, f :: frames⟩
        (.action ⟨pos, ⟨.word "else", elsePos⟩ :: ⟨.word f.keyword.name, wordPos⟩ :: items, close,
          stop⟩) = .ok _ :=
      Growth.step_of_grows (.chain rfl hb hk hlt hp)
    have hbody := hb'
      ⟨f.keyword, wordPos, ⟨elsePos, Growth.excerpt source elsePos stop⟩, p, true, [], none⟩
      ({ f with body? := some nodes.reverse } :: frames) rfl rfl rfl rfl rfl
    rw [foldlM_cons_ok hchain hbody]
    simp [Frame.close, Growth.closeBlock, Frame.node]

end

theorem items_closing_inj {xs ys : List Placed} {pos stop pos' stop' : Nat} {ts us : List Token}
    (h : xs.map Token.item ++ .closing pos stop :: ts =
      ys.map Token.item ++ .closing pos' stop' :: us) :
    xs = ys ∧ pos = pos' ∧ stop = stop' ∧ ts = us := by
  induction xs generalizing ys with
  | nil => cases ys <;> simp_all
  | cons x xs ih =>
    cases ys with
    | nil => simp at h
    | cons y ys =>
      simp only [List.map_cons, List.cons_append, List.cons.injEq, Token.item.injEq] at h
      obtain ⟨rfl, h⟩ := h
      obtain ⟨rfl, hrest⟩ := ih h
      exact ⟨rfl, hrest⟩

/-- Tokens come from one list of pieces only. -/
theorem tokens_injective : Function.Injective tokens := by
  intro ps qs h
  induction ps generalizing qs with
  | nil =>
    match qs with
    | [] => rfl
    | .text _ _ :: _ | .action _ :: _ => cases h
  | cons x ps ih =>
    match x, qs with
    | .text _ _, .text _ _ :: qs =>
      injection h with hx hrest
      injection hx with hpos hcontent
      rw [hpos, hcontent, ih hrest]
    | .action ⟨_, _, _, _⟩, .action ⟨_, _, _, _⟩ :: qs =>
      simp only [tokens, List.flatMap_cons, Piece.tokens, List.cons_append, List.append_assoc,
        List.nil_append, List.cons.injEq, Token.opening.injEq] at h
      obtain ⟨rfl, h⟩ := h
      obtain ⟨rfl, rfl, rfl, hrest⟩ := items_closing_inj h
      rw [ih hrest]
    | .text _ _, [] | .action _, [] => cases h
    | .text _ _, .action _ :: _ | .action _, .text _ _ :: _ => cases h

theorem readTree_of_isTemplate {source : List Char} {ps : List Piece} {nodes : List Node}
    (h : IsTemplate source 0 (tokens ps) nodes) : readTree source ps = .ok nodes := by
  obtain ⟨qs, ht, hr⟩ := h.read
  obtain rfl := tokens_injective ht
  unfold readTree
  rw [hr .start rfl]
  simp [bind, Except.bind, Growth.finish, Growth.start]

/-- A source is read as a tree exactly if its tokens make up a template of the grammar, within the
limit of depth, and the tree is the one that goes with them. -/
theorem readTree_eq_ok_iff (source : List Char) (ps : List Piece) (nodes : List Node) :
    readTree source ps = .ok nodes ↔ IsTemplate source 0 (tokens ps) nodes :=
  ⟨isTemplate_of_readTree, readTree_of_isTemplate⟩

end AlertRelay.Template
