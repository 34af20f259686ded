import AlertRelay.Proofs.Template.Alike
import AlertRelay.Proofs.Template.TreeStep

/-!
Where a piece stands in a source plays no part in how it is read: the same pieces at other positions
make up a tree that comes to the same.
-/

namespace AlertRelay.Template

variable {E : Cause → Cause → Prop} {source source' : List Char}

/-!
Items.
-/

/-- The same items, at any positions. -/
def SameItems (xs ys : List Placed) : Prop := xs.map Placed.item = ys.map Placed.item

theorem Drafts.step_relocate {depth : Nat} {s s' : Drafts} {t u : Placed} (h : t.item = u.item)
    (hs : s.step depth t = .ok s') : s.step depth u = .ok s' := by
  obtain ⟨item, pos⟩ := t
  obtain ⟨item', pos'⟩ := u
  cases h
  unfold Drafts.step at hs ⊢
  cases item with
  | field _ _ | dot | constant _ => exact hs
  | word name =>
    dsimp only at hs ⊢
    split at hs
    · exact hs
    · cases hs
  | pipe =>
    dsimp only at hs ⊢
    split at hs
    · exact hs
    · cases hs
  | leftParen =>
    dsimp only at hs ⊢
    split at hs
    · cases hs
    · next hlt => rwa [if_neg hlt]
  | rightParen =>
    dsimp only at hs ⊢
    split at hs
    · cases hs
    · split at hs
      · cases hs
      · exact hs

theorem SameItems.foldlM {depth : Nat} {xs ys : List Placed} {s s' : Drafts} (h : SameItems xs ys)
    (hs : xs.foldlM (Drafts.step depth) s = .ok s') : ys.foldlM (Drafts.step depth) s = .ok s' := by
  induction xs generalizing ys s with
  | nil =>
    cases List.map_eq_nil_iff.mp h.symm
    exact hs
  | cons t xs ih =>
    obtain ⟨u, ys, rfl, hu, hxs⟩ := List.map_eq_cons_iff.mp h.symm
    rw [List.foldlM_cons] at hs
    cases ht : s.step depth t with
    | error e =>
      rw [ht] at hs
      cases hs
    | ok s₁ =>
      rw [ht] at hs
      exact foldlM_cons_ok (Drafts.step_relocate hu.symm ht) (ih hxs.symm hs)

theorem IsPipeline.relocate {d : Nat} {xs ys : List Placed} {p : Pipeline} (h : IsPipeline d xs p)
    (he : SameItems xs ys) : IsPipeline d ys p := by
  obtain ⟨s, hs, ho, hp⟩ := @IsPipeline.read d d _ _ h .start rfl rfl
  refine @isPipeline_of_readPipeline d 0 _ _ ?_
  unfold readPipeline
  rw [he.foldlM hs]
  change s.finish 0 = .ok p
  simp [Drafts.finish, hp, ho, Drafts.start]

/-!
Trees of which a part is read.
-/

/-- Open blocks that come to the same. -/
structure Frame.Alike (E : Cause → Cause → Prop) (f f' : Frame) : Prop where
  keyword : f.keyword = f'.keyword
  condition : f.condition.Alike E f'.condition
  chained : f.chained = f'.chained
  before : AlikeNodes E f.before f'.before
  body? : Option.Rel (AlikeNodes E) f.body? f'.body?

structure Growth.Alike (E : Cause → Cause → Prop) (g g' : Growth) : Prop where
  nodes : AlikeNodes E g.nodes g'.nodes
  frames : List.Forall₂ (Frame.Alike E) g.frames g'.frames

theorem Growth.Alike.start : Growth.Alike E .start .start := ⟨.nil, .nil⟩

theorem Growth.Alike.push {g g' : Growth} {n n' : Node} (h : g.Alike E g') (hn : n.Alike E n') :
    (g.push n).Alike E (g'.push n') := ⟨.cons hn h.nodes, h.frames⟩

theorem Frame.Alike.node {f f' : Frame} (h : f.Alike E f') {ns ns' : List Node}
    (hns : AlikeNodes E ns ns') : (f.node ns).Alike E (f'.node ns') := by
  obtain ⟨keyword, headPos, site, condition, chained, before, body?⟩ := f
  obtain ⟨keyword', headPos', site', condition', chained', before', body?'⟩ := f'
  obtain ⟨hk, hc, -, -, hb⟩ := h
  cases hk
  cases hb with
  | none => exact .block hc hns.reverse .nil
  | some hb => exact .block hc hb hns.reverse

theorem Frame.Alike.otherwise {f f' : Frame} (h : f.Alike E f') {ns ns' : List Node}
    (hns : AlikeNodes E ns ns') :
    Frame.Alike E { f with body? := some ns } { f' with body? := some ns' } :=
  ⟨h.keyword, h.condition, h.chained, h.before, .some hns⟩

theorem closeBlock_alike {fs fs' : List Frame} (h : List.Forall₂ (Frame.Alike E) fs fs')
    {ns ns' : List Node} (hns : AlikeNodes E ns ns') :
    (Growth.closeBlock ns fs).Alike E (Growth.closeBlock ns' fs') := by
  induction h generalizing ns ns' with
  | nil => exact ⟨hns, .nil⟩
  | @cons f f' fs fs' hf hfs ih =>
    have hclosed : AlikeNodes E (f.node ns :: f.before) (f'.node ns' :: f'.before) :=
      .cons (hf.node hns) hf.before
    unfold Growth.closeBlock
    rw [hf.chained]
    split
    · exact ih hclosed
    · exact ⟨hclosed, hfs⟩

theorem Frame.Alike.close {f f' : Frame} (h : f.Alike E f') {n n' : Node} (hn : n.Alike E n')
    {fs fs' : List Frame} (hfs : List.Forall₂ (Frame.Alike E) fs fs') :
    (f.close n fs).Alike E (f'.close n' fs') := by
  have hclosed : AlikeNodes E (n :: f.before) (n' :: f'.before) := .cons hn h.before
  unfold Frame.close
  rw [h.chained]
  split
  · exact closeBlock_alike hfs hclosed
  · exact ⟨hclosed, hfs⟩

/-!
Pieces.
-/

/-- The same piece, at any positions. -/
inductive Piece.Same : Piece → Piece → Prop
  | text {pos pos' content} : Piece.Same (.text pos content) (.text pos' content)
  | action {a b} : SameItems a.items b.items → Piece.Same (.action a) (.action b)

theorem Growth.Alike.length {g g' : Growth} (h : g.Alike E g') :
    g'.frames.length = g.frames.length := h.frames.length_eq.symm

theorem SameItems.exists_word {w : String} {pos : Nat} {xs ys : List Placed}
    (h : SameItems (⟨.word w, pos⟩ :: xs) ys) :
    ∃ pos' ys', ys = ⟨.word w, pos'⟩ :: ys' ∧ SameItems xs ys' := by
  obtain ⟨⟨_, pos'⟩, ys', rfl, ⟨⟩, hys⟩ := List.map_eq_cons_iff.mp h.symm
  exact ⟨pos', ys', rfl, hys.symm⟩

theorem Piece.Same.exists_word {w : String} {pos wordPos close stop : Nat} {xs : List Placed}
    {x : Piece} (h : Piece.Same (.action ⟨pos, ⟨.word w, wordPos⟩ :: xs, close, stop⟩) x) :
    ∃ pos' wordPos' ys close' stop',
      x = .action ⟨pos', ⟨.word w, wordPos'⟩ :: ys, close', stop'⟩ ∧ SameItems xs ys := by
  cases h with
  | @action _ b hi =>
    obtain ⟨pos', items, close', stop'⟩ := b
    obtain ⟨wordPos', ys, rfl, hys⟩ := SameItems.exists_word hi
    exact ⟨pos', wordPos', ys, close', stop', rfl, hys⟩

theorem Growth.Alike.exists_frame {g g' : Growth} (h : g.Alike E g') {f : Frame}
    {fs : List Frame} (hf : g.frames = f :: fs) :
    ∃ f' fs', f.Alike E f' ∧ List.Forall₂ (Frame.Alike E) fs fs' ∧ g'.frames = f' :: fs' := by
  have hframes := h.frames
  rw [hf] at hframes
  generalize g'.frames = fs' at hframes
  cases hframes with
  | cons hff hfs => exact ⟨_, _, hff, hfs, rfl⟩

theorem Frame.Alike.body?_eq_none {f f' : Frame} (h : f.Alike E f') (hb : f.body? = none) :
    f'.body? = none := by
  have hbody := h.body?
  rw [hb] at hbody
  generalize f'.body? = b' at hbody
  cases hbody
  rfl

/-- What a piece does to a tree, it does to a tree alike, wherever it stands. -/
theorem Growth.Alike.grows (hE : ∀ c, E c c) {g g' g₁ : Growth} {x x' : Piece} (h : g.Alike E g')
    (hx : x.Same x') (hg : Grows source g x g₁) :
    ∃ g₁', Grows source' g' x' g₁' ∧ g₁.Alike E g₁' := by
  cases hg with
  | text =>
    cases hx
    exact ⟨_, .text, h.push .text⟩
  | action hp =>
    cases hx with
    | action hi =>
      refine ⟨_, .action ?_, h.push (.action (.refl hE _))⟩
      rw [h.length]
      exact hp.relocate hi
  | block hlt hp =>
    obtain ⟨pos, headPos, items, close, stop, rfl, hi⟩ := hx.exists_word
    refine ⟨_, .block (by rwa [h.length]) (by rw [h.length]; exact hp.relocate hi), .nil, ?_⟩
    exact .cons ⟨rfl, .refl hE _, rfl, h.nodes, .none⟩ h.frames
  | finish hf =>
    obtain ⟨pos, wordPos, items, close, stop, rfl, hi⟩ := hx.exists_word
    cases List.map_eq_nil_iff.mp hi.symm
    obtain ⟨f', fs', hff, hfs, hf'⟩ := h.exists_frame hf
    exact ⟨_, .finish hf', hff.close (hff.node h.nodes) hfs⟩
  | otherwise hf hb =>
    obtain ⟨pos, wordPos, items, close, stop, rfl, hi⟩ := hx.exists_word
    cases List.map_eq_nil_iff.mp hi.symm
    obtain ⟨f', fs', hff, hfs, hf'⟩ := h.exists_frame hf
    exact ⟨_, .otherwise hf' (hff.body?_eq_none hb), .nil,
      .cons (hff.otherwise h.nodes.reverse) hfs⟩
  | chain hf hb hk hlt hp =>
    obtain ⟨pos, elsePos, items, close, stop, rfl, hi⟩ := hx.exists_word
    obtain ⟨headPos, items, rfl, hitems⟩ := SameItems.exists_word hi
    obtain ⟨f', fs', hff, hfs, hf'⟩ := h.exists_frame hf
    have hlength := hfs.length_eq
    rw [hff.keyword] at hk
    have hgrows := @Grows.chain source' g' _ _ pos elsePos headPos items close stop _ hf'
      (hff.body?_eq_none hb) hk (by rwa [← hlength]) (by rw [← hlength]; exact hp.relocate hitems)
    rw [← hff.keyword] at hgrows
    refine ⟨_, hgrows, .nil, ?_⟩
    exact .cons ⟨rfl, .refl hE _, rfl, .nil, .none⟩
      (.cons ⟨rfl, hff.condition, hff.chained, hff.before, .some h.nodes.reverse⟩ hfs)

theorem Growth.Alike.foldlM (hE : ∀ c, E c c) {g g' g₁ : Growth} {ps ps' : List Piece}
    (h : g.Alike E g') (hp : List.Forall₂ Piece.Same ps ps')
    (hg : ps.foldlM (Growth.step source) g = .ok g₁) :
    ∃ g₁', ps'.foldlM (Growth.step source') g' = .ok g₁' ∧ g₁.Alike E g₁' := by
  induction hp generalizing g g' with
  | nil =>
    cases hg
    exact ⟨g', rfl, h⟩
  | cons hx _ ih =>
    obtain ⟨g₂, hstep, hrest⟩ := exists_of_foldlM_cons hg
    obtain ⟨g₂', hg₂', halike⟩ := h.grows hE hx (Growth.grows_of_step hstep)
    obtain ⟨g₁', hg₁', hend⟩ := ih halike hrest
    exact ⟨g₁', foldlM_cons_ok (Growth.step_of_grows hg₂') hg₁', hend⟩

end AlertRelay.Template
