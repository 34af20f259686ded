import AlertRelay.Proofs.Template.PieceReading

/-!
A source that stands behind another one is cut as both are cut alone, if nothing can be read across
the seam.
-/

namespace AlertRelay.Template

open AlertRelay.Text

/-- The characters that meet where one source follows another: they are no blanks, and they do not
make up an opening delimiter. An empty source meets nothing. -/
def Seam (cs ds : List Char) : Prop :=
  ∀ a ∈ cs.getLast?, ∀ b ∈ ds.head?,
    isBlank a = false ∧ isBlank b = false ∧ ¬ (a = '\x7b' ∧ b = '\x7b')

/-- The pieces of two sources in one: a text at the seam may go on on the other side. -/
inductive Joins : List Piece → List Piece → List Piece → Prop
  | apart {ps qs} : Joins ps qs (ps ++ qs)
  | merged {ps qs pos pos' a b} :
      Joins (ps ++ [.text pos a]) (.text pos' b :: qs) (ps ++ .text pos (a ++ b) :: qs)

theorem Joins.append_left {ps qs rs : List Piece} (h : Joins ps qs rs) (os : List Piece) :
    Joins (os ++ ps) qs (os ++ rs) := by
  cases h with
  | apart =>
    rw [← List.append_assoc]
    exact .apart
  | merged =>
    rw [← List.append_assoc, ← List.append_assoc]
    exact .merged

theorem joins_textPiece (pos : Nat) (cs text : List Char) (ps : List Piece) :
    Joins (textPiece pos cs) (textPiece (pos + cs.length) text ++ ps)
      (textPiece pos (cs ++ text) ++ ps) := by
  cases cs with
  | nil => exact .apart
  | cons a cs =>
    cases text with
    | nil =>
      rw [List.append_nil]
      exact .apart
    | cons b text => exact @Joins.merged [] ps pos _ (a :: cs) (b :: text)

theorem Seam.of_suffix {xs cs ds : List Char} (h : Seam cs ds) (hx : xs <:+ cs) : Seam xs ds := by
  intro a ha b hb
  obtain ⟨t, rfl⟩ := hx
  exact h a (by rw [List.getLast?_append, ha]; rfl) b hb

theorem Seam.head {cs ds : List Char} (h : Seam cs ds) (hne : cs ≠ []) :
    ∀ b ∈ ds.head?, isBlank b = false :=
  fun b hb => (h _ (List.getLast?_eq_some_getLast hne) b hb).2.1

theorem Seam.no_delim {cs ds : List Char} (h : Seam cs ds) (hc : ¬ leftDelim <:+: cs)
    (hd : ¬ leftDelim <:+: ds) : ¬ leftDelim <:+: cs ++ ds := by
  intro hi
  rcases pair_infix_append hi with hi | hi | ⟨hl, hh⟩
  · exact hc hi
  · exact hd hi
  · exact (h _ hl _ hh).2.2 ⟨rfl, rfl⟩

theorem keptText_append {cs : List Char} (h : ∀ a ∈ cs.getLast?, isBlank a = false) (before : Bool)
    (text : List Char) : keptText before (cs ++ text) = cs ++ keptText before text := by
  cases before with
  | false => rfl
  | true =>
    have hcs : cs.reverse.dropWhile isBlank = cs.reverse := by
      cases hr : cs.reverse with
      | nil => rfl
      | cons a r =>
        have ha := h a (by rw [List.getLast?_eq_head?_reverse, hr]; rfl)
        rw [List.dropWhile_cons, if_neg (by simp [ha])]
    simp only [keptText, if_pos, trimEndBy, List.reverse_append, List.dropWhile_append, hcs]
    split
    · next he => simp [List.isEmpty_iff.mp he]
    · simp

/-!
What is read from the source in front.
-/

theorem ReadsItems.closeBrace_mem {pos : Nat} {cs : List Char} {b : Body}
    (h : ReadsItems pos cs b) : closeBrace ∈ cs := by
  obtain ⟨-, u, rfl, -⟩ := h.exists_chars
  cases b.trim <;> simp [closer, rightDelim, closeBrace]

/-- A body before more characters. -/
def Body.extend (b : Body) (ds : List Char) : Body := { b with rest := b.rest ++ ds }

theorem ReadsItems.append {pos : Nat} {cs : List Char} {b : Body} (h : ReadsItems pos cs b)
    (ds : List Char) : ReadsItems pos (cs ++ ds) (b.extend ds) := by
  induction h with
  | close hl =>
    rw [List.append_assoc, List.append_assoc]
    exact .close hl
  | @item pos lead c r item n b hl hi hrest ih =>
    have hmem := hrest.closeBrace_mem
    have hle : n ≤ r.length := by
      have := List.length_pos_of_mem hmem
      rw [List.length_drop] at this
      omega
    rw [← List.drop_append_of_le_length hle] at ih
    rw [List.append_assoc, List.cons_append]
    exact .item hl (hi.append (List.mem_of_mem_drop hmem) ds) ih

theorem ReadsBody.append {pos : Nat} {cs : List Char} {b : Body} (h : ReadsBody pos cs b)
    (ds : List Char) : ReadsBody pos (cs ++ ds) (b.extend ds) := by
  cases h with
  | items h => exact .items (h.append ds)
  | @comment lead body trail trim rest hl hn ht =>
    have hread := @ReadsBody.comment pos lead body trail trim (rest ++ ds) hl hn ht
    simpa [Body.extend] using hread

theorem ReadsBody.opened_append {pos : Nat} {before : Bool} {inner : List Char} {b : Body}
    (h : ReadsBody pos inner b) (ds : List Char) :
    trimsBefore (dash before ++ (inner ++ ds)) = trimsBefore (dash before ++ inner) := by
  obtain ⟨u, rfl, -, -⟩ := h.exists_chars
  have hlen : 2 ≤ (dash before ++ (u ++ (closer b.trim ++ b.rest))).length := by
    cases b.trim <;> simp [closer, rightDelim] <;> omega
  rw [← List.append_assoc]
  exact trimsBefore_append hlen ds

theorem ReadsPieces.append_text {pos : Nat} {cs ds : List Char} {qs : List Piece}
    (hn : ¬ leftDelim <:+: cs) (hs : Seam cs ds) (h : ReadsPieces (pos + cs.length) ds qs) :
    ∃ rs, ReadsPieces pos (cs ++ ds) rs ∧ Joins (textPiece pos cs) qs rs := by
  cases h with
  | last hd =>
    refine ⟨_, .last (hs.no_delim hn hd), ?_⟩
    have hj := joins_textPiece pos cs ds []
    rwa [List.append_nil, List.append_nil] at hj
  | @more _ text before inner b blanks rest ps hd ht hb hr hdrop hrest =>
    have hhead : (text ++ ['\x7b']).head? =
        (text ++ (leftDelim ++ (dash before ++ inner))).head? := by
      cases text <;> rfl
    have hopen : ¬ leftDelim <:+: cs ++ text ++ ['\x7b'] := by
      rw [List.append_assoc]
      refine Seam.no_delim (fun a ha c hc => hs a ha c ?_) hn hd
      rwa [hhead] at hc
    have hlast : ∀ a ∈ cs.getLast?, isBlank a = false := by
      intro a ha
      obtain ⟨c, hc⟩ : ∃ c, (text ++ ['\x7b']).head? = some c := by
        cases text <;> exact ⟨_, rfl⟩
      exact (hs a ha c (hhead ▸ hc)).1
    have hbody : ReadsBody (pos + (cs ++ text).length + 2 + (dash before).length) inner b := by
      rwa [List.length_append, ← Nat.add_assoc]
    refine ⟨textPiece pos (keptText before (cs ++ text)) ++
      b.pieces (pos + (cs ++ text).length) ++ ps, ?_, ?_⟩
    · rw [← List.append_assoc]
      exact .more hopen ht hbody hr hdrop hrest
    · rw [keptText_append hlast, List.length_append, ← Nat.add_assoc, List.append_assoc,
        List.append_assoc]
      exact joins_textPiece pos cs (keptText before text) _

theorem ReadsPieces.append {pos : Nat} {cs ds : List Char} {ps qs : List Piece}
    (h : ReadsPieces pos cs ps) (hs : Seam cs ds) (hq : ReadsPieces (pos + cs.length) ds qs) :
    ∃ rs, ReadsPieces pos (cs ++ ds) rs ∧ Joins ps qs rs := by
  induction h with
  | last hn => exact ReadsPieces.append_text hn hs hq
  | @more pos text before inner b blanks rest ps hn ht hb hr hd hrest ih =>
    obtain ⟨u, hu, -, -⟩ := hb.exists_chars
    have hsuffix : rest <:+ text ++ (leftDelim ++ (dash before ++ inner)) := by
      rw [hu, hr]
      exact ⟨text ++ (leftDelim ++ (dash before ++ (u ++ (closer b.trim ++ blanks)))), by simp⟩
    have hdrop : Drops b.trim blanks (rest ++ ds) := by
      refine ⟨hd.blank, fun htrim a ha => ?_, hd.none⟩
      cases hrest' : rest with
      | nil =>
        -- The source in front is all read, and the one behind does not begin with a blank.
        rw [hrest'] at ha
        exact hs.head (by simp [leftDelim]) a ha
      | cons c r =>
        rw [hrest'] at ha
        refine hd.all htrim a ?_
        rw [hrest']
        exact ha
    obtain ⟨rs, hrs, hj⟩ := ih (hs.of_suffix hsuffix) (by rwa [hb.stop_add_rest hr])
    have htrims : trimsBefore (dash before ++ (inner ++ ds)) = before := by
      rw [hb.opened_append, ht]
    have hrest : (b.extend ds).rest = blanks ++ (rest ++ ds) := by
      rw [Body.extend, hr, List.append_assoc]
    refine ⟨textPiece pos (keptText before text) ++ (b.extend ds).pieces (pos + text.length) ++ rs,
      ?_, hj.append_left _⟩
    rw [List.append_assoc, List.append_assoc, List.append_assoc]
    exact .more hn htrims (hb.append ds) hrest hdrop hrs

end AlertRelay.Template
