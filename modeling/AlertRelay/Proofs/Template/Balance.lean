import AlertRelay.Proofs.Template.Shifting
import AlertRelay.Proofs.Template.TreeReading

/-!
Pieces in which every block has its end. That is said of the words that actions begin with, and of
nothing else: whether the pipelines can be read, and how deep the blocks nest, plays no part.
-/

namespace AlertRelay.Template

variable {source : List Char}

/-- The items of an action that belongs to no block. -/
def IsPlain (items : List Placed) : Prop :=
  ∀ w pos rest, items = ⟨.word w, pos⟩ :: rest →
    w ≠ "end" ∧ w ≠ "else" ∧ Keyword.ofName? w = none

/-- The action that ends a block. -/
inductive Piece.IsEnd : Piece → Prop
  | mk {pos wordPos close stop} : IsEnd (.action ⟨pos, [⟨.word "end", wordPos⟩], close, stop⟩)

/-- The action before the `else` part of a block. -/
inductive Piece.IsElse : Piece → Prop
  | mk {pos wordPos close stop} : IsElse (.action ⟨pos, [⟨.word "else", wordPos⟩], close, stop⟩)

/-- The action that goes on with a block from an `else`. -/
inductive Piece.GoesOn (k : Keyword) : Piece → Prop
  | mk {pos elsePos wordPos items close stop} : GoesOn k
      (.action ⟨pos, ⟨.word "else", elsePos⟩ :: ⟨.word k.name, wordPos⟩ :: items, close, stop⟩)

/-- The action that begins a block. -/
inductive Piece.Begins (k : Keyword) : Piece → Prop
  | mk {pos wordPos items close stop} :
      Begins k (.action ⟨pos, ⟨.word k.name, wordPos⟩ :: items, close, stop⟩)

mutual

inductive Balanced : List Piece → Prop
  | nil : Balanced []
  | text {pos content ps} : Balanced ps → Balanced (.text pos content :: ps)
  | plain {a ps} : IsPlain a.items → Balanced ps → Balanced (.action a :: ps)
  | block {k x ps qs rs} : Piece.Begins k x → Balanced ps → BalancedTail k qs → Balanced rs →
      Balanced (x :: (ps ++ (qs ++ rs)))

/-- The pieces of a block after its body. -/
inductive BalancedTail : Keyword → List Piece → Prop
  | done {k x} : Piece.IsEnd x → BalancedTail k [x]
  | otherwise {k x ps y} : Piece.IsElse x → Balanced ps → Piece.IsEnd y →
      BalancedTail k (x :: (ps ++ [y]))
  | chain {k x ps qs} : k.chains = true → Piece.GoesOn k x → Balanced ps → BalancedTail k qs →
      BalancedTail k (x :: (ps ++ qs))

end

/-- The pieces of a block after its condition, up to its end. -/
inductive Remainder : Keyword → List Piece → Prop
  | last {k ps} : Balanced ps → Remainder k ps
  | otherwise {k ps x qs} : Balanced ps → Piece.IsElse x → Balanced qs → Remainder k (ps ++ x :: qs)
  | chain {k ps x qs} : Balanced ps → Piece.GoesOn k x → Remainder k qs →
      Remainder k (ps ++ x :: qs)

/-- With its end, a block falls into its body and the rest. -/
theorem Remainder.exists_tail {k : Keyword} {rs : List Piece} (h : Remainder k rs)
    (hk : k.chains = true) {x : Piece} (hx : x.IsEnd) :
    ∃ ps qs, rs ++ [x] = ps ++ qs ∧ Balanced ps ∧ BalancedTail k qs := by
  induction h with
  | last hps => exact ⟨_, [x], rfl, hps, .done hx⟩
  | otherwise hps helse hqs =>
    exact ⟨_, _, List.append_assoc .., hps, .otherwise helse hqs hx⟩
  | chain hps hon _ ih =>
    obtain ⟨body, tail, he, hbody, htail⟩ := ih
    refine ⟨_, _, List.append_assoc .., hps, ?_⟩
    rw [List.cons_append, he]
    exact .chain hk hon hbody htail

/-!
What stays balanced wherever it stands.
-/

theorem Piece.IsEnd.shift {x : Piece} (h : x.IsEnd) (n : Nat) : (x.shift n).IsEnd := by
  cases h
  exact .mk

theorem Piece.IsElse.shift {x : Piece} (h : x.IsElse) (n : Nat) : (x.shift n).IsElse := by
  cases h
  exact .mk

theorem Piece.GoesOn.shift {k : Keyword} {x : Piece} (h : x.GoesOn k) (n : Nat) :
    (x.shift n).GoesOn k := by
  cases h
  exact .mk

theorem Piece.Begins.shift {k : Keyword} {x : Piece} (h : x.Begins k) (n : Nat) :
    (x.shift n).Begins k := by
  cases h
  exact .mk

theorem IsPlain.shift {items : List Placed} (h : IsPlain items) (n : Nat) :
    IsPlain (items.map (Placed.shift n)) := by
  intro w pos rest he
  obtain ⟨⟨item, pos'⟩, rest', rfl, ⟨⟩, -⟩ := List.map_eq_cons_iff.mp he
  exact h w pos' rest' rfl

mutual

theorem Balanced.shift {ps : List Piece} (h : Balanced ps) (n : Nat) :
    Balanced (ps.map (Piece.shift n)) :=
  match h with
  | .nil => .nil
  | .text hps => .text (hps.shift n)
  | .plain hp hps => .plain (hp.shift n) (hps.shift n)
  | .block hx hps hqs hrs => by
    rw [List.map_cons, List.map_append, List.map_append]
    exact .block (hx.shift n) (hps.shift n) (hqs.shift n) (hrs.shift n)

theorem BalancedTail.shift {k : Keyword} {qs : List Piece} (h : BalancedTail k qs) (n : Nat) :
    BalancedTail k (qs.map (Piece.shift n)) :=
  match h with
  | .done hx => .done (hx.shift n)
  | .otherwise hx hps hy => by
    rw [List.map_cons, List.map_append]
    exact .otherwise (hx.shift n) (hps.shift n) (hy.shift n)
  | .chain hk hx hps hqs => by
    rw [List.map_cons, List.map_append]
    exact .chain hk (hx.shift n) (hps.shift n) (hqs.shift n)

end

theorem Remainder.shift {k : Keyword} {rs : List Piece} (h : Remainder k rs) (n : Nat) :
    Remainder k (rs.map (Piece.shift n)) := by
  induction h with
  | last hps => exact .last (hps.shift n)
  | otherwise hps hx hqs =>
    rw [List.map_append, List.map_cons]
    exact .otherwise (hps.shift n) (hx.shift n) (hqs.shift n)
  | chain hps hx _ ih =>
    rw [List.map_append, List.map_cons]
    exact .chain (hps.shift n) (hx.shift n) ih

/-!
Trees. Balanced pieces that are read at all make up a template, whatever stands around them.
-/

theorem IsTemplate.foldlM {d : Nat} {ps : List Piece} {ns : List Node}
    (h : IsTemplate source d (tokens ps) ns) {g : Growth} (hd : g.frames.length = d) :
    ps.foldlM (Growth.step source) g = .ok ⟨ns.reverse ++ g.nodes, g.frames⟩ := by
  obtain ⟨qs, hqs, hr⟩ := h.read
  cases tokens_injective hqs
  exact hr g hd

theorem IsTail.foldlM {k : Keyword} {d : Nat} {qs : List Piece} {ns : List Node}
    (h : IsTail source k d (tokens qs) ns) {f : Frame} {frames : List Frame} (hk : f.keyword = k)
    (hb : f.body? = none) (hd : frames.length + 1 = d) (nodes : List Node) :
    qs.foldlM (Growth.step source) ⟨nodes, f :: frames⟩ =
      .ok (f.close (.block k f.site f.condition nodes.reverse ns) frames) := by
  obtain ⟨qs', hqs, hr⟩ := h.read
  cases tokens_injective hqs
  exact hr f frames nodes hk hb hd

theorem Growth.step_chain {k : Keyword} {f : Frame} {frames : List Frame} {nodes : List Node}
    {pos elsePos headPos close stop : Nat} {items : List Placed} (hk : f.keyword = k)
    (hb : f.body? = none) (hc : k.chains = true) :
    Growth.step source ⟨nodes, f :: frames⟩ (.action
        ⟨pos, ⟨.word "else", elsePos⟩ :: ⟨.word k.name, headPos⟩ :: items, close, stop⟩) =
      Growth.openBlock source ⟨[], { f with body? := some nodes.reverse } :: frames⟩ k true
        elsePos headPos items close stop := by
  subst hk
  change Growth.readElse source ⟨nodes, f :: frames⟩ elsePos _ close stop = _
  unfold Growth.readElse
  dsimp only
  rw [hb, Growth.continuation?_eq_some_iff.mpr ⟨hc, rfl⟩]

mutual

theorem Balanced.isTemplate {ps : List Piece} (h : Balanced ps) {g g' : Growth}
    (hg : ps.foldlM (Growth.step source) g = .ok g') :
    ∃ ns, IsTemplate source g.frames.length (tokens ps) ns :=
  match h with
  | .nil => ⟨[], .nil⟩
  | .text hps => by
    obtain ⟨g₁, ⟨⟩, hrest⟩ := exists_of_foldlM_cons hg
    obtain ⟨ns, hns⟩ := hps.isTemplate hrest
    exact ⟨_, .text hns⟩
  | @Balanced.plain a ps hplain hps => by
    obtain ⟨g₁, hstep, hrest⟩ := exists_of_foldlM_cons hg
    cases Growth.grows_of_step hstep with
    | action hp =>
      obtain ⟨ns, hns⟩ := hps.isTemplate hrest
      have htokens : tokens (.action a :: ps) =
          .opening a.pos :: (a.items.map .item ++ .closing a.close a.stop :: tokens ps) := by
        simp [tokens, Piece.tokens]
      rw [htokens]
      exact ⟨_, .action hp hns⟩
    | @block k _ _ _ _ _ _ _ _ =>
      have hk := (hplain k.name _ _ rfl).2.2
      cases k <;> cases hk
    | finish => exact absurd rfl (hplain _ _ _ rfl).1
    | otherwise => exact absurd rfl (hplain _ _ _ rfl).2.1
    | chain => exact absurd rfl (hplain _ _ _ rfl).2.1
  | @Balanced.block k _ ps qs rs hx hps hqs hrs => by
    obtain @⟨pos, wordPos, items, close, stop⟩ := hx
    obtain ⟨g₁, hstep, hrest⟩ := exists_of_foldlM_cons hg
    rw [Growth.step_keyword] at hstep
    obtain ⟨hlt, p, hp, rfl⟩ := Growth.openBlock_eq_ok_iff.mp hstep
    obtain ⟨g₂, hbody, hrest⟩ := exists_of_foldlM_append hrest
    obtain ⟨ns, hns⟩ := hps.isTemplate hbody
    cases (hns.foldlM rfl).symm.trans hbody
    obtain ⟨g₃, htail, hrest⟩ := exists_of_foldlM_append hrest
    obtain ⟨os, hos⟩ := hqs.isTail htail rfl rfl
    cases (hos.foldlM rfl rfl rfl _).symm.trans htail
    obtain ⟨ms, hms⟩ := hrs.isTemplate hrest
    have htokens : tokens (.action ⟨pos, ⟨.word k.name, wordPos⟩ :: items, close, stop⟩ ::
        (ps ++ (qs ++ rs))) = .opening pos :: .word k.name wordPos ::
          ((items.map .item ++ .closing close stop :: (tokens ps ++ tokens qs)) ++ tokens rs) := by
      simp [tokens, Piece.tokens, Token.word]
    rw [htokens]
    exact ⟨_, .block hlt (.mk hp hns hos) hms⟩

theorem BalancedTail.isTail {k : Keyword} {qs : List Piece} (h : BalancedTail k qs) {f : Frame}
    {frames : List Frame} {nodes : List Node} {g' : Growth}
    (hg : qs.foldlM (Growth.step source) ⟨nodes, f :: frames⟩ = .ok g') (hk : f.keyword = k)
    (hb : f.body? = none) : ∃ ns, IsTail source k (frames.length + 1) (tokens qs) ns :=
  match h with
  | .done hx => by
    cases hx
    exact ⟨[], .done .mk⟩
  | @BalancedTail.otherwise k _ ps _ hx hps hy => by
    cases hx
    cases hy
    obtain ⟨g₁, hstep, hrest⟩ := exists_of_foldlM_cons hg
    cases (Growth.step_of_grows (.otherwise rfl hb)).symm.trans hstep
    obtain ⟨g₂, hbody, -⟩ := exists_of_foldlM_append hrest
    obtain ⟨ns, hns⟩ := hps.isTemplate hbody
    refine ⟨ns, ?_⟩
    rw [← List.cons_append, tokens_append]
    exact .otherwise hns .mk
  | @BalancedTail.chain k _ ps qs hchains hx hps hqs => by
    obtain @⟨pos, elsePos, wordPos, items, close, stop⟩ := hx
    obtain ⟨g₁, hstep, hrest⟩ := exists_of_foldlM_cons hg
    rw [Growth.step_chain hk hb hchains] at hstep
    obtain ⟨hlt, p, hp, rfl⟩ := Growth.openBlock_eq_ok_iff.mp hstep
    obtain ⟨g₂, hbody, hrest⟩ := exists_of_foldlM_append hrest
    obtain ⟨ns, hns⟩ := hps.isTemplate hbody
    cases (hns.foldlM rfl).symm.trans hbody
    obtain ⟨os, hos⟩ := hqs.isTail hrest rfl rfl
    have htokens : tokens (.action ⟨pos, ⟨.word "else", elsePos⟩ ::
        ⟨.word k.name, wordPos⟩ :: items, close, stop⟩ :: (ps ++ qs)) =
          .opening pos :: .word "else" elsePos :: .word k.name wordPos ::
            (items.map .item ++ .closing close stop :: (tokens ps ++ tokens qs)) := by
      simp [tokens, Piece.tokens, Token.word]
    rw [htokens]
    exact ⟨_, .chain hchains hlt (.mk hp hns hos)⟩

end

/-- What comes of a block does not depend on whether it shares the end of the block around it. -/
theorem Remainder.exists_close {k : Keyword} {rs : List Piece} (h : Remainder k rs)
    (hc : k.chains = true) {x : Piece} (hx : x.IsEnd) {f : Frame} {frames : List Frame} {g : Growth}
    (hg : (rs ++ [x]).foldlM (Growth.step source) ⟨[], f :: frames⟩ = .ok g)
    (hk : f.keyword = k) (hb : f.body? = none) : ∃ n, ∀ chained,
      (rs ++ [x]).foldlM (Growth.step source) ⟨[], { f with chained } :: frames⟩ =
        .ok (Frame.close { f with chained } n frames) := by
  obtain ⟨ps, qs, he, hps, hqs⟩ := h.exists_tail hc hx
  rw [he] at hg ⊢
  obtain ⟨g₁, hbody, htail⟩ := exists_of_foldlM_append hg
  obtain ⟨ns, hns⟩ := hps.isTemplate hbody
  cases (hns.foldlM rfl).symm.trans hbody
  obtain ⟨os, hos⟩ := hqs.isTail htail hk hb
  have hclose (chained : Bool) := hos.foldlM (f := { f with chained }) hk hb rfl (ns.reverse ++ [])
  exact ⟨.block k f.site f.condition (ns.reverse ++ []).reverse os,
    fun chained => foldlM_append_ok (hns.foldlM rfl) (hclose chained)⟩

/-- An `else` that goes on with the keyword of its block does what the `else` and the block would,
with an end more. -/
theorem Remainder.foldlM_chain_iff {k : Keyword} {rs : List Piece} (h : Remainder k rs)
    (hc : k.chains = true) {x : Piece} (hx : x.IsEnd) {f : Frame} {frames : List Frame}
    {nodes : List Node} {g : Growth} {pos elsePos headPos close stop : Nat} {items : List Placed}
    (hk : f.keyword = k) (hb : f.body? = none) :
    (.action ⟨pos, ⟨.word "else", elsePos⟩ :: ⟨.word k.name, headPos⟩ :: items, close, stop⟩ ::
        (rs ++ [x])).foldlM (Growth.step source) ⟨nodes, f :: frames⟩ = .ok g ↔
      (.action ⟨pos, [⟨.word "else", elsePos⟩], close, stop⟩ ::
        .action ⟨elsePos, ⟨.word k.name, headPos⟩ :: items, close, stop⟩ ::
          (rs ++ [x, x])).foldlM (Growth.step source) ⟨nodes, f :: frames⟩ = .ok g := by
  have helse : Growth.step source ⟨nodes, f :: frames⟩
      (.action ⟨pos, [⟨.word "else", elsePos⟩], close, stop⟩) = .ok _ :=
    Growth.step_of_grows (.otherwise rfl hb)
  have hlast (f : Frame) (frames : List Frame) (nodes : List Node) :
      [x].foldlM (Growth.step source) ⟨nodes, f :: frames⟩ =
        .ok (f.close (f.node nodes) frames) := by
    cases hx
    exact foldlM_cons_ok (Growth.step_of_grows (.finish rfl)) rfl
  have hsplit : rs ++ [x, x] = (rs ++ [x]) ++ [x] := by simp
  constructor
  · intro hg
    obtain ⟨g₁, hstep, hrest⟩ := exists_of_foldlM_cons hg
    rw [Growth.step_chain hk hb hc] at hstep
    obtain ⟨hlt, p, hp, rfl⟩ := Growth.openBlock_eq_ok_iff.mp hstep
    obtain ⟨n, hn⟩ := h.exists_close hc hx hrest rfl rfl
    cases (hn true).symm.trans hrest
    have hblock : Growth.step source _ (.action
        ⟨elsePos, ⟨.word k.name, headPos⟩ :: items, close, stop⟩) = .ok _ :=
      Growth.step_of_grows (.block hlt hp)
    rw [hsplit]
    refine foldlM_cons_ok helse (foldlM_cons_ok hblock (foldlM_append_ok (hn false) ?_))
    exact hlast _ _ _
  · intro hg
    obtain ⟨g₁, hstep, hrest⟩ := exists_of_foldlM_cons hg
    cases helse.symm.trans hstep
    obtain ⟨g₂, hblock, hrest⟩ := exists_of_foldlM_cons hrest
    rw [Growth.step_keyword] at hblock
    obtain ⟨hlt, p, hp, rfl⟩ := Growth.openBlock_eq_ok_iff.mp hblock
    rw [hsplit] at hrest
    obtain ⟨g₃, hrest, hend⟩ := exists_of_foldlM_append hrest
    obtain ⟨n, hn⟩ := h.exists_close hc hx hrest rfl rfl
    cases (hn false).symm.trans hrest
    cases (hlast _ _ _).symm.trans hend
    refine foldlM_cons_ok ?_ (hn true)
    rw [Growth.step_chain hk hb hc]
    exact Growth.openBlock_eq_ok_iff.mpr ⟨hlt, p, hp, rfl⟩

/-!
Whatever makes up a template is balanced.
-/

theorem IsPipeline.isPlain {d : Nat} {items : List Placed} {p : Pipeline}
    (h : IsPipeline d items p) : IsPlain items := by
  rintro w pos rest rfl
  obtain ⟨f, hf⟩ := h.head_word
  cases Builtin.ofName?_eq_some hf
  cases f <;> decide

theorem IsEnd.exists_piece {ts : List Token} (h : IsEnd ts) :
    ∃ x : Piece, tokens [x] = ts ∧ x.IsEnd := by
  cases h
  exact ⟨.action ⟨_, [⟨.word "end", _⟩], _, _⟩, rfl, .mk⟩

mutual

theorem IsTemplate.balanced {d : Nat} {ts : List Token} {ns : List Node}
    (h : IsTemplate source d ts ns) : ∃ ps, tokens ps = ts ∧ Balanced ps :=
  match h with
  | .nil => ⟨[], rfl, .nil⟩
  | .text ht => by
    obtain ⟨ps, rfl, hps⟩ := ht.balanced
    exact ⟨.text _ _ :: ps, rfl, .text hps⟩
  | @IsTemplate.action _ _ pos items close stop _ _ _ hp ht => by
    obtain ⟨ps, rfl, hps⟩ := ht.balanced
    exact ⟨.action ⟨pos, items, close, stop⟩ :: ps, by simp [tokens, Piece.tokens],
      .plain hp.isPlain hps⟩
  | @IsTemplate.block _ _ k pos wordPos _ _ _ _ _ hrest ht => by
    obtain ⟨items, close, stop, ps, qs, rfl, hps, hqs⟩ := hrest.balanced
    obtain ⟨rs, rfl, hrs⟩ := ht.balanced
    exact ⟨.action ⟨pos, ⟨.word k.name, wordPos⟩ :: items, close, stop⟩ :: (ps ++ (qs ++ rs)),
      by simp [tokens, Piece.tokens, Token.word], .block .mk hps hqs hrs⟩

theorem IsRest.balanced {k : Keyword} {d pos : Nat} {ts : List Token} {n : Node}
    (h : IsRest source k d pos ts n) : ∃ (items : List Placed) (close stop : Nat)
      (ps qs : List Piece), ts = items.map .item ++ .closing close stop :: tokens (ps ++ qs) ∧
        Balanced ps ∧ BalancedTail k qs :=
  match h with
  | @IsRest.mk _ _ _ _ items close stop _ _ _ _ _ _ ht htail => by
    obtain ⟨ps, rfl, hps⟩ := ht.balanced
    obtain ⟨qs, rfl, hqs⟩ := htail.balanced
    exact ⟨items, close, stop, ps, qs, by rw [tokens_append], hps, hqs⟩

theorem IsTail.balanced {k : Keyword} {d : Nat} {ts : List Token} {ns : List Node}
    (h : IsTail source k d ts ns) : ∃ qs, tokens qs = ts ∧ BalancedTail k qs :=
  match h with
  | .done he => by
    obtain ⟨x, rfl, hx⟩ := he.exists_piece
    exact ⟨[x], rfl, .done hx⟩
  | @IsTail.otherwise _ _ _ pos wordPos close stop _ _ _ ht he => by
    obtain ⟨ps, rfl, hps⟩ := ht.balanced
    obtain ⟨x, rfl, hx⟩ := he.exists_piece
    exact ⟨.action ⟨pos, [⟨.word "else", wordPos⟩], close, stop⟩ :: (ps ++ [x]),
      by simp [tokens, Piece.tokens, Token.word], .otherwise .mk hps hx⟩
  | @IsTail.chain _ _ _ pos elsePos wordPos _ _ hk _ hrest => by
    obtain ⟨items, close, stop, ps, qs, rfl, hps, hqs⟩ := hrest.balanced
    exact ⟨.action ⟨pos, ⟨.word "else", elsePos⟩ :: ⟨.word k.name, wordPos⟩ :: items, close,
      stop⟩ :: (ps ++ qs), by simp [tokens, Piece.tokens, Token.word], .chain hk .mk hps hqs⟩

end

/-- The pieces of any source that is read as a tree. -/
theorem balanced_of_readTree {ps : List Piece} {ns : List Node}
    (h : readTree source ps = .ok ns) : Balanced ps := by
  obtain ⟨qs, hqs, hbalanced⟩ := (isTemplate_of_readTree h).balanced
  cases tokens_injective hqs
  exact hbalanced

end AlertRelay.Template
