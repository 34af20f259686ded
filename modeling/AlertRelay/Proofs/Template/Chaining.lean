import AlertRelay.Proofs.Template.Balance
import AlertRelay.Proofs.Template.Concatenation
import AlertRelay.Proofs.Template.Delimited
import AlertRelay.Proofs.Template.Relocation

/-!
An `else` that goes on with the keyword of its block stands for an `else` with a block in it: both
sources compile or none does, and what they write is the same.
-/

namespace AlertRelay.Template

open AlertRelay.Text

variable {E : Cause → Cause → Prop} {source source' : List Char} {k : Keyword}

/-!
Trees.
-/

theorem readTree_eq_ok_iff_foldlM {ps : List Piece} {ns : List Node} :
    readTree source ps = .ok ns ↔
      ps.foldlM (Growth.step source) .start = .ok ⟨ns.reverse, []⟩ := by
  constructor
  · intro h
    have hfold := (isTemplate_of_readTree h).foldlM (g := .start) rfl
    rwa [show Growth.start.nodes = [] from rfl, List.append_nil] at hfold
  · intro h
    unfold readTree
    rw [h]
    exact congrArg Except.ok (List.reverse_reverse ns)

theorem Piece.Same.symm {x y : Piece} (h : x.Same y) : y.Same x := by
  cases h with
  | text => exact .text
  | action hi => exact .action (Eq.symm hi)

theorem same_shift (n m : Nat) (ps : List Piece) :
    List.Forall₂ Piece.Same (ps.map (Piece.shift n)) (ps.map (Piece.shift m)) := by
  rw [List.forall₂_map_left_iff, List.forall₂_map_right_iff, List.forall₂_same]
  intro x _
  cases x with
  | text => exact .text
  | action a =>
    refine .action ?_
    simp only [SameItems, List.map_map]
    rfl

/-- The same pieces make up a tree that comes to the same, wherever they stand. -/
theorem exists_readTree_of_same {ps qs : List Piece} {ns : List Node} (hE : ∀ c, E c c)
    (h : readTree source ps = .ok ns) (hs : List.Forall₂ Piece.Same ps qs) :
    ∃ ms, readTree source' qs = .ok ms ∧ AlikeNodes E ns ms := by
  obtain ⟨g, hfold, halike⟩ : ∃ g, qs.foldlM (Growth.step source') .start = .ok g ∧
      Growth.Alike E ⟨ns.reverse, []⟩ g :=
    Growth.Alike.foldlM hE .start hs (readTree_eq_ok_iff_foldlM.mp h)
  obtain ⟨nodes, frames⟩ := g
  obtain ⟨hnodes, hframes⟩ := halike
  cases hframes
  refine ⟨nodes.reverse, readTree_eq_ok_iff_foldlM.mpr ?_, ?_⟩
  · rwa [List.reverse_reverse]
  · simpa using hnodes.reverse

/-- The body of a block leaves the block open. -/
theorem exists_frame_of_body {x : Piece} {ps : List Piece} (hx : x.Begins k) (hps : Balanced ps)
    {g : Growth} (hg : (x :: ps).foldlM (Growth.step source) .start = .ok g) :
    ∃ nodes f, g = ⟨nodes, [f]⟩ ∧ f.keyword = k ∧ f.body? = none := by
  obtain @⟨pos, wordPos, items, close, stop⟩ := hx
  obtain ⟨g₁, hstep, hbody⟩ := exists_of_foldlM_cons hg
  rw [Growth.step_keyword] at hstep
  obtain ⟨-, p, -, rfl⟩ := Growth.openBlock_eq_ok_iff.mp hstep
  obtain ⟨ns, hns⟩ := hps.isTemplate hbody
  cases (hns.foldlM rfl).symm.trans hbody
  exact ⟨_, _, rfl, rfl, rfl⟩

/-- A whole block with a chain, and the same with a block in its `else` part, at the same
positions. -/
theorem readTree_chain_iff (hk : k.chains = true) {x y : Piece} {ps rs : List Piece}
    (hx : x.Begins k) (hps : Balanced ps) (hrs : Remainder k rs) (hy : y.IsEnd)
    {pos elsePos headPos close stop : Nat} {items : List Placed} {ns : List Node} :
    readTree source (x :: (ps ++ .action
        ⟨pos, ⟨.word "else", elsePos⟩ :: ⟨.word k.name, headPos⟩ :: items, close, stop⟩ ::
          (rs ++ [y]))) = .ok ns ↔
      readTree source (x :: (ps ++ .action ⟨pos, [⟨.word "else", elsePos⟩], close, stop⟩ ::
        .action ⟨elsePos, ⟨.word k.name, headPos⟩ :: items, close, stop⟩ ::
          (rs ++ [y, y]))) = .ok ns := by
  -- Up to the chain both are read alike.
  have hiff {xs ys : List Piece} {g' : Growth}
      (h : ∀ nodes f, f.keyword = k → f.body? = none →
        (xs.foldlM (Growth.step source) ⟨nodes, [f]⟩ = .ok g' ↔
          ys.foldlM (Growth.step source) ⟨nodes, [f]⟩ = .ok g')) :
      ((x :: ps) ++ xs).foldlM (Growth.step source) .start = .ok g' →
        ((x :: ps) ++ ys).foldlM (Growth.step source) .start = .ok g' := by
    intro hg
    obtain ⟨g, hbody, hrest⟩ := exists_of_foldlM_append hg
    obtain ⟨nodes, f, rfl, hkey, hb⟩ := exists_frame_of_body hx hps hbody
    exact foldlM_append_ok hbody ((h nodes f hkey hb).mp hrest)
  rw [readTree_eq_ok_iff_foldlM, readTree_eq_ok_iff_foldlM]
  exact ⟨hiff fun _ _ hkey hb => hrs.foldlM_chain_iff hk hy hkey hb,
    hiff fun _ _ hkey hb => (hrs.foldlM_chain_iff hk hy hkey hb).symm⟩

/-!
Sources.
-/

/-- The items of a pipeline as they are written: they are read up to the delimiter behind them. -/
def IsInside (s : String) : Prop :=
  ∃ b, itemsAt 0 0 (s.toList ++ rightDelim) = .ok b ∧ b.trim = false ∧ b.rest = []

/-- A text in which every block has its end. -/
def IsBalanced (s : String) : Prop := ∃ ps, pieces s.toList = .ok ps ∧ Balanced ps

/-- What can stand behind the condition of a block, up to its end. The branches may be written in
any way that can be cut. Between plain delimiters they may also follow a body that runs into the
delimiter, though nothing with such a body compiles. -/
inductive IsRemainder (k : Keyword) : String → Prop
  | cut {s ps} : pieces s.toList = .ok ps → Remainder k ps → IsRemainder k s
  | otherwise {a b} : IsBalanced a → IsBalanced b →
      IsRemainder k (a ++ "\x7b\x7belse\x7d\x7d" ++ b)
  | chain {a q r} : IsBalanced a → IsInside q → IsRemainder k r →
      IsRemainder k (a ++ "\x7b\x7belse " ++ k.name ++ " " ++ q ++ "\x7d\x7d" ++ r)

/-- A block with a branch that goes on with its keyword. -/
def chained (k : Keyword) (p a q r : String) : String :=
  "\x7b\x7b" ++ k.name ++ " " ++ p ++ "\x7d\x7d" ++ a ++
    "\x7b\x7belse " ++ k.name ++ " " ++ q ++ "\x7d\x7d" ++ r ++ "\x7b\x7bend\x7d\x7d"

/-- The same with a block in an `else` part. -/
def nested (k : Keyword) (p a q r : String) : String :=
  "\x7b\x7b" ++ k.name ++ " " ++ p ++ "\x7d\x7d" ++ a ++
    "\x7b\x7belse\x7d\x7d\x7b\x7b" ++ k.name ++ " " ++ q ++ "\x7d\x7d" ++ r ++
      "\x7b\x7bend\x7d\x7d\x7b\x7bend\x7d\x7d"

theorem inside_else : Inside "else".toList [⟨.word "else", 0⟩] :=
  inside_of_itemsAt (b := ⟨false, [⟨.word "else", 0⟩], 4, 6, false, []⟩)
    (by with_unfolding_all rfl) rfl rfl

theorem inside_end : Inside "end".toList [⟨.word "end", 0⟩] :=
  inside_of_itemsAt (b := ⟨false, [⟨.word "end", 0⟩], 3, 5, false, []⟩)
    (by with_unfolding_all rfl) rfl rfl

theorem IsInside.exists_items {s : String} (h : IsInside s) : ∃ xs, Inside s.toList xs := by
  obtain ⟨b, hb, ht, hr⟩ := h
  exact ⟨b.items, inside_of_itemsAt hb ht hr⟩

theorem Inside.keyword {u : List Char} {items : List Placed} (h : Inside u items) (k : Keyword) :
    Inside (k.name.toList ++ ' ' :: u)
      (⟨.word k.name, 0⟩ :: items.map (Placed.shift (k.name.toList.length + 1))) := by
  have hword := h.word k.isName k.not_constant
  rwa [String.ofList_toList] at hword

theorem Inside.goesOn {u : List Char} {items : List Placed} (h : Inside u items) (k : Keyword) :
    Inside ("else".toList ++ ' ' :: (k.name.toList ++ ' ' :: u)) (⟨.word "else", 0⟩ ::
      (⟨.word k.name, 0⟩ :: items.map (Placed.shift (k.name.toList.length + 1))).map
        (Placed.shift 5)) :=
  (h.keyword k).word ⟨'e', "lse".toList, rfl, rfl, List.all_eq_true.1 rfl⟩ (by decide)

theorem IsBalanced.exists_pieces {s : String} (h : IsBalanced s) :
    ∃ ps, ReadsPieces 0 s.toList ps ∧ Balanced ps := by
  obtain ⟨ps, hps, hb⟩ := h
  exact ⟨ps, pieces_eq_ok_iff.mp hps, hb⟩

theorem toList_otherwise (a b : String) : (a ++ "\x7b\x7belse\x7d\x7d" ++ b).toList =
    a.toList ++ (delimited "else".toList ++ b.toList) := by
  simp [delimited, leftDelim, rightDelim]

theorem toList_chain (k : Keyword) (a q r : String) :
    (a ++ "\x7b\x7belse " ++ k.name ++ " " ++ q ++ "\x7d\x7d" ++ r).toList = a.toList ++
      (delimited ("else".toList ++ ' ' :: (k.name.toList ++ ' ' :: q.toList)) ++ r.toList) := by
  simp [delimited, leftDelim, rightDelim]

theorem toList_chained (k : Keyword) (p a q r : String) : (chained k p a q r).toList =
    delimited (k.name.toList ++ ' ' :: p.toList) ++ (a.toList ++
      (delimited ("else".toList ++ ' ' :: (k.name.toList ++ ' ' :: q.toList)) ++
        (r.toList ++ delimited "end".toList))) := by
  unfold chained
  simp only [String.toList_append, delimited, leftDelim, rightDelim, String.reduceToList,
    List.cons_append, List.nil_append, List.append_assoc]

theorem toList_nested (k : Keyword) (p a q r : String) : (nested k p a q r).toList =
    delimited (k.name.toList ++ ' ' :: p.toList) ++ (a.toList ++ (delimited "else".toList ++
      (delimited (k.name.toList ++ ' ' :: q.toList) ++
        (r.toList ++ (delimited "end".toList ++ delimited "end".toList))))) := by
  unfold nested
  simp only [String.toList_append, delimited, leftDelim, rightDelim, String.reduceToList,
    List.cons_append, List.nil_append, List.append_assoc]

/-- Branches that are cut before an action are cut alone. -/
theorem IsRemainder.exists_pieces {r : String} (h : IsRemainder k r) {pos : Nat} {u ds : List Char}
    {zs : List Piece} (hz : ReadsPieces pos (r.toList ++ (delimited u ++ ds)) zs) :
    ∃ rs, ReadsPieces 0 r.toList rs ∧ Remainder k rs := by
  induction h generalizing pos zs with
  | cut hps hrs => exact ⟨_, pieces_eq_ok_iff.mp hps, hrs⟩
  | otherwise ha hb =>
    obtain ⟨ps, hps, hbalanced⟩ := ha.exists_pieces
    obtain ⟨qs, hqs, hbalanced'⟩ := hb.exists_pieces
    rw [toList_otherwise, List.append_assoc, List.append_assoc] at hz
    obtain ⟨hne, -⟩ := ((hps.moved pos).behind_iff inside_else).mp hz
    rw [toList_otherwise]
    exact ⟨_, (hps.behind_iff inside_else).mpr ⟨hne, _, hqs.moved _, rfl⟩,
      .otherwise hbalanced .mk (hbalanced'.shift _)⟩
  | chain ha hq _ ih =>
    obtain ⟨ps, hps, hbalanced⟩ := ha.exists_pieces
    obtain ⟨xs, hxs⟩ := hq.exists_items
    rw [toList_chain, List.append_assoc, List.append_assoc] at hz
    obtain ⟨hne, qs', hz, -⟩ := ((hps.moved pos).behind_iff (hxs.goesOn k)).mp hz
    obtain ⟨rs, hrs, hremainder⟩ := ih hz
    rw [toList_chain]
    exact ⟨_, (hps.behind_iff (hxs.goesOn k)).mpr ⟨hne, _, hrs.moved _, rfl⟩,
      .chain hbalanced .mk (hremainder.shift _)⟩

theorem compile_eq_ok_iff {name s : String} {t : Template} : compile name s = .ok t ↔
    ∃ ps ns, ReadsPieces 0 s.toList ps ∧ readTree s.toList ps = .ok ns ∧ t = ⟨name, s, ns⟩ := by
  constructor
  · intro h
    obtain ⟨ns, hns, rfl⟩ := map_eq_ok h
    obtain ⟨ps, hps, htree⟩ := readNodes_eq_ok_iff.mp hns
    exact ⟨ps, ns, hps, readTree_of_isTemplate htree, rfl⟩
  · rintro ⟨ps, ns, hps, htree, rfl⟩
    unfold compile
    rw [readNodes_eq_ok_iff.mpr ⟨ps, hps, isTemplate_of_readTree htree⟩]
    rfl

theorem reads_nil {pos : Nat} : ReadsPieces pos [] [] := readsPieces_nil_iff.mpr rfl

/-- The parts of both sources, and what they are read as. -/
structure Parts (k : Keyword) (p a q r : String) where
  first : List Placed
  body : List Piece
  second : List Placed
  rest : List Piece
  inside_first : Inside p.toList first
  reads_body : ReadsPieces 0 a.toList body
  inside_second : Inside q.toList second
  reads_rest : ReadsPieces 0 r.toList rest
  balanced : Balanced body
  remainder : Remainder k rest

namespace Parts

variable {p a q r : String} (x : Parts k p a q r)

def opening : Stretch := ⟨[], [], _, _, reads_nil, x.inside_first.keyword k⟩

def chain : List Stretch :=
  [x.opening, ⟨_, _, _, _, x.reads_body, x.inside_second.goesOn k⟩,
    ⟨_, _, _, _, x.reads_rest, inside_end⟩]

def nest : List Stretch :=
  [x.opening, ⟨_, _, _, _, x.reads_body, inside_else⟩,
    ⟨[], [], _, _, reads_nil, x.inside_second.keyword k⟩,
    ⟨_, _, _, _, x.reads_rest, inside_end⟩,
    ⟨[], [], _, _, reads_nil, inside_end⟩]

theorem reads_chained_iff {zs : List Piece} : ReadsPieces 0 (chained k p a q r).toList zs ↔
    (a.toList.getLast? ≠ some '\x7b' ∧ r.toList.getLast? ≠ some '\x7b') ∧
      zs = layOut 0 x.chain := by
  have hchars : (chained k p a q r).toList = x.chain.flatMap Stretch.chars := by
    rw [toList_chained]
    simp [chain, opening, Stretch.chars]
  have htexts : x.chain.map Stretch.text = [[], a.toList, r.toList] := rfl
  rw [hchars, readsPieces_stretches_nil_iff, htexts]
  simp

theorem reads_nested_iff {zs : List Piece} : ReadsPieces 0 (nested k p a q r).toList zs ↔
    (a.toList.getLast? ≠ some '\x7b' ∧ r.toList.getLast? ≠ some '\x7b') ∧
      zs = layOut 0 x.nest := by
  have hchars : (nested k p a q r).toList = x.nest.flatMap Stretch.chars := by
    rw [toList_nested]
    simp [nest, opening, Stretch.chars]
  have htexts : x.nest.map Stretch.text = [[], a.toList, [], r.toList, []] := rfl
  rw [hchars, readsPieces_stretches_nil_iff, htexts]
  simp

/-- Up to positions, the nest is the chain with an `else` and a block in it. -/
theorem exists_same (hk : k.chains = true) : ∃ us,
    (∀ source ns, readTree source (layOut 0 x.chain) = .ok ns ↔ readTree source us = .ok ns) ∧
      List.Forall₂ Piece.Same us (layOut 0 x.nest) := by
  refine ⟨_, fun source ns => readTree_chain_iff hk .mk (x.balanced.shift _)
    (x.remainder.shift _) .mk, ?_⟩
  have hend (n m : Nat) : Piece.Same (.action (actionAt n "end".toList [⟨.word "end", 0⟩]))
      (.action (actionAt m "end".toList [⟨.word "end", 0⟩])) := .action rfl
  refine .cons (.action rfl) (List.rel_append (same_shift _ _ _) (.cons (.action rfl) ?_))
  refine .cons (.action ?_) (List.rel_append (same_shift _ _ _) ?_)
  · simp only [SameItems, actionAt, List.map_cons, List.map_map]
    rfl
  · exact .cons (hend _ _) (.cons (hend _ _) .nil)

theorem exists_compile_nested (x : Parts k p a q r) (hk : k.chains = true) {name : String}
    {t : Template} (h : compile name (chained k p a q r) = .ok t) : ∃ t',
      compile name (nested k p a q r) = .ok t' ∧ t.name = t'.name ∧
        AlikeNodes Eq t.nodes t'.nodes := by
  obtain ⟨us, hus, hsame⟩ := x.exists_same hk
  obtain ⟨ps, ns, hps, htree, rfl⟩ := compile_eq_ok_iff.mp h
  obtain ⟨hends, rfl⟩ := x.reads_chained_iff.mp hps
  obtain ⟨ms, hms, halike⟩ := exists_readTree_of_same (fun _ => rfl) ((hus _ _).mp htree) hsame
  refine ⟨⟨name, _, ms⟩, compile_eq_ok_iff.mpr ⟨_, ms, ?_, hms, rfl⟩, rfl, halike⟩
  exact x.reads_nested_iff.mpr ⟨hends, rfl⟩

theorem exists_compile_chained (x : Parts k p a q r) (hk : k.chains = true) {name : String}
    {t : Template} (h : compile name (nested k p a q r) = .ok t) :
    ∃ t', compile name (chained k p a q r) = .ok t' := by
  obtain ⟨us, hus, hsame⟩ := x.exists_same hk
  obtain ⟨ps, ns, hps, htree, rfl⟩ := compile_eq_ok_iff.mp h
  obtain ⟨hends, rfl⟩ := x.reads_nested_iff.mp hps
  obtain ⟨ms, hms, -⟩ := exists_readTree_of_same (E := Eq) (fun _ => rfl) htree
    (hsame.flip.imp fun _ _ => Piece.Same.symm)
  exact ⟨_, compile_eq_ok_iff.mpr ⟨_, ms, x.reads_chained_iff.mpr ⟨hends, rfl⟩,
    (hus _ _).mpr hms, rfl⟩⟩

end Parts

theorem nonempty_parts_of_chained {p a q r : String} (hp : IsInside p) (ha : IsBalanced a)
    (hq : IsInside q) (hr : IsRemainder k r) {zs : List Piece}
    (hz : ReadsPieces 0 (chained k p a q r).toList zs) : Nonempty (Parts k p a q r) := by
  obtain ⟨xs, hxs⟩ := hp.exists_items
  obtain ⟨ps, hps, hbalanced⟩ := ha.exists_pieces
  obtain ⟨ys, hys⟩ := hq.exists_items
  rw [toList_chained, ← List.append_nil (delimited "end".toList)] at hz
  obtain ⟨-, zs₁, hz, -⟩ := (reads_nil.behind_iff (hxs.keyword k)).mp hz
  obtain ⟨-, zs₂, hz, -⟩ := ((hps.moved _).behind_iff (hys.goesOn k)).mp hz
  obtain ⟨rs, hrs, hremainder⟩ := hr.exists_pieces hz
  exact ⟨⟨xs, ps, ys, rs, hxs, hps, hys, hrs, hbalanced, hremainder⟩⟩

theorem nonempty_parts_of_nested {p a q r : String} (hp : IsInside p) (ha : IsBalanced a)
    (hq : IsInside q) (hr : IsRemainder k r) {zs : List Piece}
    (hz : ReadsPieces 0 (nested k p a q r).toList zs) : Nonempty (Parts k p a q r) := by
  obtain ⟨xs, hxs⟩ := hp.exists_items
  obtain ⟨ps, hps, hbalanced⟩ := ha.exists_pieces
  obtain ⟨ys, hys⟩ := hq.exists_items
  rw [toList_nested] at hz
  obtain ⟨-, zs₁, hz, -⟩ := (reads_nil.behind_iff (hxs.keyword k)).mp hz
  obtain ⟨-, zs₂, hz, -⟩ := ((hps.moved _).behind_iff inside_else).mp hz
  obtain ⟨-, zs₃, hz, -⟩ := (reads_nil.behind_iff (hys.keyword k)).mp hz
  obtain ⟨rs, hrs, hremainder⟩ := hr.exists_pieces hz
  exact ⟨⟨xs, ps, ys, rs, hxs, hps, hys, hrs, hbalanced, hremainder⟩⟩

/-- For `if` and `with`, an `else` that goes on with the keyword is exactly an `else` with a block
in it: the one source compiles if and only if the other does, and both do the same with all data,
and fail for the same causes. -/
theorem chained_eq_nested (hk : k.chains = true) {p a q r : String} (hp : IsInside p)
    (ha : IsBalanced a) (hq : IsInside q) (hr : IsRemainder k r) (name : String) :
    ((∃ t, compile name (chained k p a q r) = .ok t) ↔
      ∃ t, compile name (nested k p a q r) = .ok t) ∧
    ∀ t t', compile name (chained k p a q r) = .ok t → compile name (nested k p a q r) = .ok t' →
      SameOutput Eq t t' := by
  have hparts {t : Template} (h : compile name (chained k p a q r) = .ok t) :
      Nonempty (Parts k p a q r) := by
    obtain ⟨zs, -, hz, -⟩ := compile_eq_ok_iff.mp h
    exact nonempty_parts_of_chained hp ha hq hr hz
  refine ⟨⟨?_, ?_⟩, ?_⟩
  · rintro ⟨t, ht⟩
    obtain ⟨x⟩ := hparts ht
    obtain ⟨t', ht', -⟩ := x.exists_compile_nested hk ht
    exact ⟨t', ht'⟩
  · rintro ⟨t, ht⟩
    obtain ⟨zs, -, hz, -⟩ := compile_eq_ok_iff.mp ht
    obtain ⟨x⟩ := nonempty_parts_of_nested hp ha hq hr hz
    exact x.exists_compile_chained hk ht
  · intro t t' ht ht'
    obtain ⟨x⟩ := hparts ht
    obtain ⟨t₁, ht₁, hname, halike⟩ := x.exists_compile_nested hk ht
    cases ht₁.symm.trans ht'
    exact sameOutput_of_alikeNodes (fun _ => rfl) hname halike

/-- Whatever compiles is balanced. -/
theorem isBalanced_of_compile {name s : String} {t : Template} (h : compile name s = .ok t) :
    IsBalanced s := by
  obtain ⟨ps, ns, hps, htree, -⟩ := compile_eq_ok_iff.mp h
  exact ⟨ps, pieces_eq_ok_iff.mpr hps, balanced_of_readTree htree⟩

/-- A block in the body, and branches of which one drops the blanks around it. -/
theorem chained_eq_nested_branches : ∃ t t',
    compile "t" (chained .cond ".A" "\x7b\x7brange .B\x7d\x7d-\x7b\x7bend\x7d\x7d" ".C"
      "y \x7b\x7b- else if .D -\x7d\x7d z\x7b\x7belse\x7d\x7dw") = .ok t ∧
    compile "t" (nested .cond ".A" "\x7b\x7brange .B\x7d\x7d-\x7b\x7bend\x7d\x7d" ".C"
      "y \x7b\x7b- else if .D -\x7d\x7d z\x7b\x7belse\x7d\x7dw") = .ok t' ∧
    SameOutput Eq t t' := by
  have hp : IsInside ".A" :=
    ⟨⟨false, [⟨.field false ["A"], 0⟩], 2, 4, false, []⟩, by with_unfolding_all rfl, rfl, rfl⟩
  have hq : IsInside ".C" :=
    ⟨⟨false, [⟨.field false ["C"], 0⟩], 2, 4, false, []⟩, by with_unfolding_all rfl, rfl, rfl⟩
  have ha : IsBalanced "\x7b\x7brange .B\x7d\x7d-\x7b\x7bend\x7d\x7d" :=
    ⟨[.action ⟨0, [⟨.word "range", 2⟩, ⟨.field false ["B"], 8⟩], 10, 12⟩, .text 12 ['-'],
      .action ⟨13, [⟨.word "end", 15⟩], 18, 20⟩], by with_unfolding_all rfl,
      @Balanced.block .range _ [_] [_] [] .mk (.text .nil) (.done .mk) .nil⟩
  have hr : IsRemainder .cond "y \x7b\x7b- else if .D -\x7d\x7d z\x7b\x7belse\x7d\x7dw" :=
    @IsRemainder.cut .cond _ [.text 0 ['y'], .action ⟨2, [⟨.word "else", 6⟩, ⟨.word "if", 11⟩,
        ⟨.field false ["D"], 14⟩], 17, 20⟩, .text 21 ['z'],
        .action ⟨22, [⟨.word "else", 24⟩], 28, 30⟩, .text 30 ['w']] (by with_unfolding_all rfl)
      (@Remainder.chain .cond [_] _ _ (.text .nil) .mk
        (@Remainder.otherwise .cond [_] _ [_] (.text .nil) .mk (.text .nil)))
  obtain ⟨hiff, hsame⟩ := chained_eq_nested (k := .cond) rfl hp ha hq hr "t"
  have hok : (compile "t" (chained .cond ".A" "\x7b\x7brange .B\x7d\x7d-\x7b\x7bend\x7d\x7d"
      ".C" "y \x7b\x7b- else if .D -\x7d\x7d z\x7b\x7belse\x7d\x7dw")).isOk = true := by
    with_unfolding_all rfl
  cases ht : compile "t" (chained .cond ".A" "\x7b\x7brange .B\x7d\x7d-\x7b\x7bend\x7d\x7d"
      ".C" "y \x7b\x7b- else if .D -\x7d\x7d z\x7b\x7belse\x7d\x7dw") with
  | error e =>
    rw [ht] at hok
    cases hok
  | ok t =>
    obtain ⟨t', ht'⟩ := hiff.mp ⟨t, ht⟩
    exact ⟨t, t', rfl, ht', hsame t t' ht ht'⟩

end AlertRelay.Template
