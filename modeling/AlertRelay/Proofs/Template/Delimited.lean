import AlertRelay.Proofs.Template.Joining
import AlertRelay.Proofs.Template.Shifting
import AlertRelay.Proofs.Template.Spelling

/-!
An action behind a text: if the text alone can be cut, it is cut as it is alone, and what stands
behind the action is cut as it is alone. Only a text that ends in an opening brace runs into the
delimiter, and then nothing can be cut.
-/

namespace AlertRelay.Template

open AlertRelay.Text

/-- Characters that are read as items up to a plain closing delimiter behind them. -/
def Inside (u : List Char) (items : List Placed) : Prop :=
  ReadsItems 0 (u ++ rightDelim) ⟨false, items, u.length, u.length + 2, false, []⟩

/-- Characters between plain delimiters. -/
def delimited (u : List Char) : List Char := leftDelim ++ (u ++ rightDelim)

/-- The action that some characters between delimiters make up. -/
def actionAt (pos : Nat) (u : List Char) (items : List Placed) : Action :=
  ⟨pos, items.map (Placed.shift (pos + 2)), pos + 2 + u.length, pos + u.length + 4⟩

variable {u : List Char} {items : List Placed}

theorem inside_of_itemsAt {b : Body} (h : itemsAt 0 0 (u ++ rightDelim) = .ok b)
    (ht : b.trim = false) (hr : b.rest = []) : Inside u b.items := by
  have hread := readsItems_of_itemsAt h
  obtain ⟨hcomment, u', hu, hchars⟩ := hread.exists_chars
  obtain ⟨comment, items, close, stop, trim, rest⟩ := b
  dsimp only at ht hr hcomment
  subst ht hr hcomment
  cases List.append_cancel_right (hu : u ++ rightDelim = u' ++ rightDelim)
  have hclose : close = u.length := by simpa using hchars.close
  have hstop : stop = close + 2 := hchars.stop
  subst hclose hstop
  exact hread

theorem Inside.reads (h : Inside u items) (pos : Nat) (rest : List Char) :
    ReadsItems pos (u ++ (rightDelim ++ rest)) ⟨false, items.map (Placed.shift pos), pos + u.length,
      pos + u.length + 2, false, rest⟩ := by
  have hread := (ReadsItems.shift h pos).append rest
  rw [List.append_assoc, Nat.add_zero] at hread
  simpa only [Body.shift, Body.extend, List.nil_append, Nat.add_assoc] using hread

/-- What is no blank is the start of a closing delimiter or of an item. -/
theorem ReadsItems.closer_or_item {pos : Nat} {c : Char} {r : List Char} {b : Body}
    (h : ReadsItems pos (c :: r) b) (hc : isBlank c = false) :
    (∃ ds, c :: r = closer b.trim ++ ds) ∨ ∃ item n, ReadsItem c r item n := by
  have hlead {lead ds : List Char} (hl : ∀ a ∈ lead, isBlank a = true) (he : c :: r = lead ++ ds) :
      lead = [] := by
    cases lead with
    | nil => rfl
    | cons a lead =>
      cases he
      have := hl c List.mem_cons_self
      rw [hc] at this
      cases this
  generalize hcs : c :: r = cs at h
  cases h with
  | close hl =>
    cases hlead hl.blank hcs
    exact .inl ⟨_, rfl⟩
  | item hl hi _ =>
    cases hlead hl hcs
    cases hcs
    exact .inr ⟨_, _, hi⟩

/-- A minus sign before a blank is no item, so none is there. -/
theorem Inside.trimsBefore (h : Inside u items) (rest : List Char) :
    trimsBefore (u ++ (rightDelim ++ rest)) = false := by
  have hread := h.reads 0 rest
  generalize u ++ (rightDelim ++ rest) = cs at hread
  unfold Template.trimsBefore
  split
  · next c r =>
    obtain ⟨ds, ⟨⟩⟩ | ⟨item, n, hi⟩ := hread.closer_or_item (by decide)
    rcases hi.head with h | h | h | h | ⟨-, a, ha, hd⟩
    · exact absurd h (by decide)
    · exact absurd h (by decide)
    · exact absurd h (by decide)
    · exact absurd h (by decide)
    · cases ha
      rcases hd with hd | rfl
      · rw [← Bool.not_eq_true]
        intro hb
        have hnot : isDigit c = false := not_of_isBlank (by decide) hb
        rw [hnot] at hd
        cases hd
      · decide
  · rfl

/-- A brace behind an opening delimiter is no item. -/
theorem bodyAt_openBrace (start pos : Nat) (r : List Char) :
    ∃ e, bodyAt start pos ('\x7b' :: r) = .error e := by
  have hitems : bodyAt start pos ('\x7b' :: r) = itemsAt start pos ('\x7b' :: r) := rfl
  cases hb : itemsAt start pos ('\x7b' :: r) with
  | error e => exact ⟨e, hitems.trans hb⟩
  | ok b =>
    obtain ⟨ds, hds⟩ | ⟨item, n, hi⟩ := (readsItems_of_itemsAt hb).closer_or_item (by decide)
    · cases ht : b.trim <;> rw [ht] at hds <;> cases hds
    · exact absurd rfl (hi.head_ne (by decide))

/-!
What stands behind a text.
-/

/-- Nothing from a closing delimiter on to the end of the blanks behind it is an opening brace. -/
theorem getLast?_closer_ne {trim : Bool} {front blanks : List Char}
    (h : ∀ a ∈ blanks, isBlank a = true) :
    (front ++ (closer trim ++ blanks)).getLast? ≠ some '\x7b' := by
  intro hl
  have hne : closer trim ++ blanks ≠ [] := by cases trim <;> simp [closer, rightDelim]
  rw [List.getLast?_append, List.getLast?_eq_some_getLast hne] at hl
  have hmem := List.getLast_mem hne
  rw [Option.some.inj hl] at hmem
  rcases List.mem_append.mp hmem with hm | hm
  · cases trim <;> exact absurd hm (by decide)
  · exact absurd (h _ hm) (by decide)

theorem getLast?_append_iff {c : Char} {xs ys : List Char} (h : xs.getLast? ≠ some c) :
    (xs ++ ys).getLast? = some c ↔ ys.getLast? = some c := by
  cases hy : ys.getLast? with
  | none =>
    cases List.getLast?_eq_none_iff.mp hy
    simpa using h
  | some a => rw [List.getLast?_append, hy]; rfl

/-- The pieces of a text fall into those that stand, and a last text that may go on. -/
theorem ReadsPieces.exists_last {pos : Nat} {cs : List Char} {ps : List Piece}
    (h : ReadsPieces pos cs ps) : ∃ text pos' qs, ¬ leftDelim <:+: text ∧
      ps = qs ++ textPiece pos' text ∧ pos' + text.length = pos + cs.length ∧
      (cs.getLast? = some '\x7b' ↔ text.getLast? = some '\x7b') ∧
      ∀ ds, (∀ a ∈ ds.head?, isBlank a = false) →
        piecesAt pos (cs ++ ds) = (piecesAt pos' (text ++ ds)).map (qs ++ ·) := by
  induction h with
  | @last pos cs hn =>
    refine ⟨cs, pos, [], hn, rfl, rfl, .rfl, fun ds _ => ?_⟩
    cases piecesAt pos (cs ++ ds) <;> rfl
  | @more pos text before inner b blanks rest ps hn ht hb hr hd _ ih =>
    obtain ⟨last, pos', qs, hlast, rfl, hpos, hend, hread⟩ := ih
    refine ⟨last, pos', textPiece pos (keptText before text) ++ b.pieces (pos + text.length) ++ qs,
      hlast, by simp only [List.append_assoc], ?_, ?_, ?_⟩
    · rw [hpos]
      exact hb.stop_add_rest hr
    · obtain ⟨w, rfl, -, -⟩ := hb.exists_chars
      have hsplit : text ++ (leftDelim ++ (dash before ++ (w ++ (closer b.trim ++ b.rest)))) =
          (text ++ (leftDelim ++ (dash before ++ w)) ++ (closer b.trim ++ blanks)) ++ rest := by
        rw [hr]
        simp only [List.append_assoc]
      rw [hsplit, getLast?_append_iff (getLast?_closer_ne hd.blank), hend]
    · intro ds hds
      have hopened : trimsBefore (dash before ++ (inner ++ ds)) = before :=
        (hb.opened_append ds).trans ht
      have hrest : (b.extend ds).rest = blanks ++ (rest ++ ds) := by
        rw [Body.extend, hr, List.append_assoc]
      -- Where the blanks go on to the end of the text, none of `ds` may be dropped with them.
      have hdrops : Drops (b.extend ds).trim blanks (rest ++ ds) := by
        refine ⟨hd.blank, fun htrim a ha => ?_, hd.none⟩
        cases rest with
        | nil => exact hds a ha
        | cons c rest => exact hd.all htrim a ha
      rw [List.append_assoc, List.append_assoc, List.append_assoc, piecesAt_of_some hn hopened,
        bodyAt_of_readsBody (hb.append ds)]
      dsimp only
      rw [hdrops.eq_dropped hrest, hrest, List.drop_left]
      refine (congrArg _ (hread ds hds)).trans ?_
      rw [map_map]
      refine congrFun (congrArg Except.map (funext fun rs => ?_)) _
      simp only [Function.comp, List.append_assoc]
      rfl

theorem piecesAt_behind_text {pos : Nat} {text : List Char} (hn : ¬ leftDelim <:+: text)
    (hl : text.getLast? ≠ some '\x7b') (hu : Inside u items) (ds : List Char) :
    piecesAt pos (text ++ (delimited u ++ ds)) =
      (piecesAt (pos + text.length + u.length + 4) ds).map
        (textPiece pos text ++ .action (actionAt (pos + text.length) u items) :: ·) := by
  have hopen : ¬ leftDelim <:+: text ++ ['\x7b'] := by
    intro hi
    rcases pair_infix_append hi with hi | hi | ⟨hlast, -⟩
    · exact hn hi
    · exact absurd hi (by decide)
    · exact hl hlast
  have hsplit : text ++ (delimited u ++ ds) =
      text ++ (leftDelim ++ (dash false ++ (u ++ (rightDelim ++ ds)))) := by
    simp [delimited, dash]
  have hpos : pos + text.length + 2 + u.length + 2 = pos + text.length + u.length + 4 := by omega
  rw [hsplit, piecesAt_of_some hopen (hu.trimsBefore ds),
    bodyAt_of_readsBody (.items (hu.reads _ ds))]
  simp only [Body.dropped, Body.pieces, keptText, dash, Bool.false_eq_true, if_false,
    List.length_nil, List.drop_zero, Nat.add_zero, hpos, List.append_assoc]
  rfl

theorem piecesAt_behind_brace {pos : Nat} {text : List Char} (hn : ¬ leftDelim <:+: text)
    (hl : text.getLast? = some '\x7b') (ds : List Char) :
    ∃ e, piecesAt pos (text ++ (leftDelim ++ ds)) = .error e := by
  obtain ⟨front, rfl⟩ := List.getLast?_eq_some_iff.mp hl
  have hsplit : front ++ ['\x7b'] ++ (leftDelim ++ ds) =
      front ++ (leftDelim ++ (dash false ++ '\x7b' :: ds)) := by
    simp [leftDelim, dash]
  obtain ⟨e, he⟩ := bodyAt_openBrace (pos + front.length)
    (pos + front.length + 2 + (dash false).length) ds
  rw [hsplit, piecesAt_of_some hn rfl, he]
  exact ⟨e, rfl⟩

theorem piecesAt_eq_ok_iff {pos : Nat} {cs : List Char} {ps : List Piece} :
    piecesAt pos cs = .ok ps ↔ ReadsPieces pos cs ps :=
  ⟨readsPieces_of_piecesAt, piecesAt_of_readsPieces⟩

/-- A text, an action and what stands behind it are cut exactly if the text does not run into the
delimiter and what stands behind the action is cut. -/
theorem ReadsPieces.behind_iff {pos : Nat} {cs ds : List Char} {ps rs : List Piece}
    (h : ReadsPieces pos cs ps) (hu : Inside u items) :
    ReadsPieces pos (cs ++ (delimited u ++ ds)) rs ↔ cs.getLast? ≠ some '\x7b' ∧
      ∃ qs, ReadsPieces (pos + cs.length + u.length + 4) ds qs ∧
        rs = ps ++ .action (actionAt (pos + cs.length) u items) :: qs := by
  obtain ⟨text, pos', qs, hn, rfl, hpos, hend, hread⟩ := h.exists_last
  have hread := hread (delimited u ++ ds) (by rintro a ⟨⟩; decide)
  rw [← piecesAt_eq_ok_iff, hread]
  by_cases hl : text.getLast? = some '\x7b'
  · obtain ⟨e, he⟩ : ∃ e, piecesAt pos' (text ++ (delimited u ++ ds)) = .error e := by
      rw [delimited, List.append_assoc]
      exact piecesAt_behind_brace hn hl _
    rw [he]
    refine ⟨nofun, fun ⟨hne, _⟩ => absurd (hend.mpr hl) hne⟩
  · rw [piecesAt_behind_text hn hl hu, map_map, hpos]
    constructor
    · intro hok
      obtain ⟨qs', hqs', rfl⟩ := map_eq_ok hok
      refine ⟨fun hc => hl (hend.mp hc), qs', readsPieces_of_piecesAt hqs', ?_⟩
      simp
    · rintro ⟨-, qs', hqs', rfl⟩
      rw [piecesAt_of_readsPieces hqs']
      simp [Except.map]

/-!
Items.
-/

theorem ReadsItems.blank {pos : Nat} {c : Char} {cs : List Char} {b : Body}
    (h : ReadsItems (pos + 1) cs b) (hc : isBlank c = true) : ReadsItems pos (c :: cs) b := by
  have hcons {lead : List Char} (hl : ∀ a ∈ lead, isBlank a = true) :
      ∀ a ∈ c :: lead, isBlank a = true :=
    fun a ha => (List.mem_cons.mp ha).elim (fun h => h ▸ hc) (hl a)
  have hpos (lead : List Char) : pos + 1 + lead.length = pos + (c :: lead).length := by
    rw [List.length_cons]
    omega
  cases h with
  | close hl =>
    rw [hpos]
    exact .close ⟨hcons hl.blank, fun _ => List.cons_ne_nil _ _⟩
  | item hl hi hrest =>
    rw [hpos] at hrest ⊢
    exact .item (hcons hl) hi hrest

/-- A word before other items. -/
theorem Inside.word {name u : List Char} {items : List Placed} (h : Inside u items)
    (hn : IsName name) (hw : String.ofList name ∉ ["true", "false", "nil"]) :
    Inside (name ++ ' ' :: u)
      (⟨.word (String.ofList name), 0⟩ :: items.map (Placed.shift (name.length + 1))) := by
  have hrest := ReadsItems.blank (h.reads (name.length + 1) []) (c := ' ') (by decide)
  obtain ⟨c, cs, rfl, hitem⟩ := reads_name hn (d := ' ') (r := u ++ rightDelim) (by decide)
  rw [wordItem_of_not_constant hw] at hitem
  have hread := @ReadsItems.item 0 [] _ _ _ _ _ (by simp) hitem
    (by rw [List.drop_left]; simpa using hrest)
  unfold Inside
  simpa [Body.push, Nat.add_assoc, Nat.add_comm 2] using hread

theorem Keyword.isName (k : Keyword) : IsName k.name.toList := by
  cases k <;> exact ⟨_, _, rfl, rfl, List.all_eq_true.1 rfl⟩

theorem Keyword.not_constant (k : Keyword) :
    String.ofList k.name.toList ∉ ["true", "false", "nil"] := by
  cases k <;> decide

/-!
Pieces.
-/

theorem ReadsPieces.moved {cs : List Char} {ps : List Piece} (h : ReadsPieces 0 cs ps) (pos : Nat) :
    ReadsPieces pos cs (ps.map (Piece.shift pos)) := by
  simpa using h.shift pos

/-- A text and an action behind it, with what both are read as. -/
structure Stretch where
  text : List Char
  pieces : List Piece
  inner : List Char
  items : List Placed
  reads : ReadsPieces 0 text pieces
  inside : Inside inner items

def Stretch.chars (s : Stretch) : List Char := s.text ++ delimited s.inner

/-- The pieces of some stretches, one after the other. -/
def layOut (pos : Nat) : List Stretch → List Piece
  | [] => []
  | s :: rest =>
    s.pieces.map (Piece.shift pos) ++
      .action (actionAt (pos + s.text.length) s.inner s.items) ::
        layOut (pos + s.text.length + s.inner.length + 4) rest

theorem readsPieces_stretches_iff {pos : Nat} {ss : List Stretch} {ds : List Char}
    {zs : List Piece} : ReadsPieces pos (ss.flatMap Stretch.chars ++ ds) zs ↔
      (∀ s ∈ ss, s.text.getLast? ≠ some '\x7b') ∧
        ∃ qs, ReadsPieces (pos + (ss.flatMap Stretch.chars).length) ds qs ∧
          zs = layOut pos ss ++ qs := by
  induction ss generalizing pos zs with
  | nil => simp [layOut]
  | cons s ss ih =>
    have hsplit : (s :: ss).flatMap Stretch.chars ++ ds =
        s.text ++ (delimited s.inner ++ (ss.flatMap Stretch.chars ++ ds)) := by
      simp [Stretch.chars]
    have hlength : pos + s.text.length + s.inner.length + 4 +
        (ss.flatMap Stretch.chars).length = pos + ((s :: ss).flatMap Stretch.chars).length := by
      simp only [List.flatMap_cons, Stretch.chars, delimited, leftDelim, rightDelim,
        List.length_append, List.length_cons, List.length_nil]
      omega
    rw [hsplit, (s.reads.moved pos).behind_iff s.inside, List.forall_mem_cons, and_assoc, layOut]
    refine and_congr_right fun _ => ?_
    constructor
    · rintro ⟨qs, hqs, rfl⟩
      obtain ⟨hall, qs', hqs', rfl⟩ := ih.mp hqs
      rw [hlength] at hqs'
      exact ⟨hall, qs', hqs', by simp⟩
    · rintro ⟨hall, qs', hqs', rfl⟩
      rw [← hlength] at hqs'
      exact ⟨_, ih.mpr ⟨hall, qs', hqs', rfl⟩, by simp⟩

theorem readsPieces_nil_iff {pos : Nat} {ps : List Piece} : ReadsPieces pos [] ps ↔ ps = [] := by
  rw [← piecesAt_eq_ok_iff, piecesAt_of_none rfl]
  exact ⟨fun h => (Except.ok.inj h).symm, fun h => h ▸ rfl⟩

/-- Stretches are cut exactly if no text runs into the delimiter behind it. -/
theorem readsPieces_stretches_nil_iff {pos : Nat} {ss : List Stretch} {zs : List Piece} :
    ReadsPieces pos (ss.flatMap Stretch.chars) zs ↔
      (∀ cs ∈ ss.map Stretch.text, cs.getLast? ≠ some '\x7b') ∧ zs = layOut pos ss := by
  rw [← List.append_nil (ss.flatMap Stretch.chars), readsPieces_stretches_iff, List.forall_mem_map]
  simp only [readsPieces_nil_iff, exists_eq_left, List.append_nil]

end AlertRelay.Template
