import AlertRelay.Proofs.Template.BodyReading
import AlertRelay.Proofs.Template.Grammar

/-!
A source is cut as follows: a text up to the next opening delimiter, what stands between the
delimiters, the blanks that a minus sign drops, and so on to the end. The relation says so of the
characters alone, without a word on where the readers look.
-/

namespace AlertRelay.Template

open AlertRelay.Text

/-- The minus sign after an opening delimiter that asks for the blanks before it to be dropped. -/
def dash (trim : Bool) : List Char := if trim then ['-'] else []

/-- Blanks that are dropped after an action: all there are if it asks for that, else none. -/
structure Drops (trim : Bool) (blanks rest : List Char) : Prop where
  blank : ∀ a ∈ blanks, isBlank a = true
  all : trim = true → ∀ a ∈ rest.head?, isBlank a = false
  none : trim = false → blanks = []

/-- The action that a body belongs to; a comment is no piece. -/
def Body.pieces (start : Nat) (b : Body) : List Piece :=
  if b.comment then [] else [.action ⟨start, b.items, b.close, b.stop⟩]

theorem mem_tokens_pieces {start : Nat} {b : Body} {t : Token} (h : t ∈ tokens (b.pieces start)) :
    t = .opening start ∨ (∃ i ∈ b.items, t = .item i) ∨ t = .closing b.close b.stop := by
  unfold Body.pieces at h
  split at h
  · cases h
  · rw [tokens, List.flatMap_singleton] at h
    rcases List.mem_cons.mp h with rfl | h
    · exact .inl rfl
    · rcases List.mem_append.mp h with h | h
      · obtain ⟨i, hi, rfl⟩ := List.mem_map.mp h
        exact .inr (.inl ⟨i, hi, rfl⟩)
      · exact .inr (.inr (List.mem_singleton.mp h))

/-- What is left of a text before an action. -/
def keptText (trim : Bool) (text : List Char) : List Char :=
  if trim then trimEndBy isBlank text else text

/-- A body and what follows it reach to the end of the source. -/
theorem ReadsBody.stop_add_rest {pos : Nat} {before : Bool} {text inner blanks rest : List Char}
    {b : Body} (h : ReadsBody (pos + text.length + 2 + (dash before).length) inner b)
    (hr : b.rest = blanks ++ rest) : b.stop + blanks.length + rest.length =
      pos + (text ++ (leftDelim ++ (dash before ++ inner))).length := by
  obtain ⟨u, rfl, hchars, -⟩ := h.exists_chars
  have hclose := hchars.close
  have hstop := hchars.stop
  rw [hr]
  simp only [List.length_append, leftDelim, List.length_cons, List.length_nil]
  omega

inductive ReadsPieces : Nat → List Char → List Piece → Prop
  | last {pos cs} : ¬ leftDelim <:+: cs → ReadsPieces pos cs (textPiece pos cs)
  | more {pos text before inner b blanks rest ps} : ¬ leftDelim <:+: text ++ ['\x7b'] →
      trimsBefore (dash before ++ inner) = before →
      ReadsBody (pos + text.length + 2 + (dash before).length) inner b →
      b.rest = blanks ++ rest → Drops b.trim blanks rest →
      ReadsPieces (b.stop + blanks.length) rest ps →
      ReadsPieces pos (text ++ (leftDelim ++ (dash before ++ inner)))
        (textPiece pos (keptText before text) ++ b.pieces (pos + text.length) ++ ps)

/-- The blanks after an action that it asks to be dropped. -/
def Body.dropped (b : Body) : List Char := if b.trim then b.rest.takeWhile isBlank else []

theorem Body.length_dropped (b : Body) :
    (if b.trim then (b.rest.takeWhile isBlank).length else 0) = b.dropped.length := by
  unfold Body.dropped
  split <;> rfl

theorem Body.exists_rest (b : Body) :
    ∃ rest, b.rest = b.dropped ++ rest ∧ Drops b.trim b.dropped rest := by
  unfold Body.dropped
  cases b.trim with
  | false => exact ⟨b.rest, rfl, ⟨by simp, by simp, fun _ => rfl⟩⟩
  | true =>
    obtain ⟨lead, rest, hr, hl, hh, htake, -⟩ := exists_blanks b.rest
    exact ⟨rest, by rw [if_pos rfl, htake, hr], ⟨by simpa [htake] using hl, fun _ => hh, by simp⟩⟩

theorem Drops.eq_dropped {b : Body} {blanks rest : List Char} (hr : b.rest = blanks ++ rest)
    (h : Drops b.trim blanks rest) : b.dropped = blanks := by
  unfold Body.dropped
  rw [hr]
  cases ht : b.trim with
  | false => rw [h.none ht]; rfl
  | true =>
    rw [if_pos rfl, List.takeWhile_append_of_pos h.blank]
    cases rest with
    | nil => simp
    | cons a rest => simp [h.all ht a rfl]

theorem trimsBefore_append {xs : List Char} (h : 2 ≤ xs.length) (ys : List Char) :
    trimsBefore (xs ++ ys) = trimsBefore xs := by
  match xs, h with
  | a :: c :: xs, _ =>
    rw [List.cons_append, List.cons_append]
    unfold trimsBefore
    split <;> split <;> simp_all

theorem dash_length (trim : Bool) : (if trim then 1 else 0) = (dash trim).length := by
  cases trim <;> rfl

theorem piecesAt_of_none {pos : Nat} {cs : List Char} (h : before? leftDelim cs = none) :
    piecesAt pos cs = .ok (textPiece pos cs) := by
  rw [piecesAt]
  split
  · rfl
  · next he =>
    rw [h] at he
    cases he

theorem piecesAt_of_some {pos : Nat} {text inner : List Char} {before : Bool}
    (hn : ¬ leftDelim <:+: text ++ ['\x7b']) (ht : trimsBefore (dash before ++ inner) = before) :
    piecesAt pos (text ++ (leftDelim ++ (dash before ++ inner))) =
      match bodyAt (pos + text.length) (pos + text.length + 2 + (dash before).length) inner with
      | .error e => .error e
      | .ok b => (piecesAt (b.stop + b.dropped.length) (b.rest.drop b.dropped.length)).map
          (textPiece pos (keptText before text) ++ b.pieces (pos + text.length) ++ ·) := by
  have hb : before? leftDelim (text ++ (leftDelim ++ (dash before ++ inner))) = some text := by
    have := before?_of_not_infix (r := dash before ++ inner)
      (List.cons_ne_nil '\x7b' ['\x7b']) hn
    rwa [List.append_assoc] at this
  have hd : (text ++ (leftDelim ++ (dash before ++ inner))).drop (text.length + 2) =
      dash before ++ inner := by
    rw [← List.append_assoc]
    exact List.drop_left' (by simp [leftDelim])
  rw [piecesAt]
  split
  · next he =>
    rw [hb] at he
    cases he
  · next text' he =>
    rw [hb] at he
    cases he
    dsimp only
    split
    · next e hbody =>
      simp only [hd, ht, dash_length, List.drop_left] at hbody
      rw [hbody]
    · next b hbody =>
      simp only [hd, ht, dash_length, List.drop_left] at hbody
      rw [hbody]
      simp only [hd, ht, Body.length_dropped]
      rfl

theorem piecesAt_of_readsPieces {pos : Nat} {cs : List Char} {ps : List Piece}
    (h : ReadsPieces pos cs ps) : piecesAt pos cs = .ok ps := by
  induction h with
  | last hn =>
    refine piecesAt_of_none (Option.eq_none_iff_forall_not_mem.mpr fun text ht => hn ?_)
    obtain ⟨r, hr⟩ := before?_eq_some ht
    exact ⟨text, r, hr.symm⟩
  | more hn ht hb hr hd _ ih =>
    rw [piecesAt_of_some hn ht, bodyAt_of_readsBody hb]
    dsimp only
    rw [hd.eq_dropped hr, hr, List.drop_left, ih]
    rfl

theorem exists_dash (cs : List Char) :
    ∃ inner, cs = dash (trimsBefore cs) ++ inner := by
  unfold trimsBefore
  split
  · next c r =>
    cases isBlank c
    · exact ⟨_, rfl⟩
    · exact ⟨_, rfl⟩
  · exact ⟨_, rfl⟩

theorem readsPieces_of_piecesAt {pos : Nat} {cs : List Char} {ps : List Piece}
    (h : piecesAt pos cs = .ok ps) : ReadsPieces pos cs ps := by
  -- Each turn takes at least the opening delimiter.
  induction hl : cs.length using Nat.strongRecOn generalizing pos cs ps with
  | ind n ih =>
    cases hb : before? leftDelim cs with
    | none =>
      rw [piecesAt_of_none hb] at h
      cases h
      exact .last (before?_eq_none hb)
    | some text =>
      have hn := not_infix_of_before? hb (List.cons_ne_nil '\x7b' ['\x7b'])
      obtain ⟨r, hr⟩ := before?_eq_some hb
      obtain ⟨inner, hi⟩ := exists_dash r
      generalize ht : trimsBefore r = before at hi
      rw [hi] at ht
      rw [hi, List.append_assoc] at hr
      subst hr
      rw [piecesAt_of_some hn ht] at h
      split at h
      · cases h
      · next b hbody =>
        obtain ⟨ps', hps, rfl⟩ := map_eq_ok h
        obtain ⟨rest, hrest, hd⟩ := b.exists_rest
        rw [hrest, List.drop_left] at hps
        have hlen := bodyAt_rest hbody
        refine .more hn ht (readsBody_of_bodyAt hbody) hrest hd (ih _ ?_ hps rfl)
        rw [hrest] at hlen
        simp only [List.length_append, leftDelim, List.length_cons] at hl hlen
        omega

/-- The pieces of a source are those that the relation says, and no others. -/
theorem pieces_eq_ok_iff {source : List Char} {ps : List Piece} :
    pieces source = .ok ps ↔ ReadsPieces 0 source ps :=
  ⟨readsPieces_of_piecesAt, piecesAt_of_readsPieces⟩

end AlertRelay.Template
