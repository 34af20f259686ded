import AlertRelay.Proofs.Template.Covering

/-!
An action by itself. Where its characters end does not depend on what stands behind them: taken
alone, they are read as that action and as nothing else.
-/

namespace AlertRelay.Template

open AlertRelay.Text

variable {c : Char} {cs ds r s : List Char} {item : Item} {n : Nat}

theorem ReadsQuoted.of_append (h : ReadsQuoted (cs ++ ds) s n) (hn : n ≤ cs.length) :
    ReadsQuoted cs s n := by
  generalize hall : cs ++ ds = all at h
  induction h generalizing cs with
  | quote =>
    match cs, hn with
    | a :: cs, _ =>
      cases hall
      exact .quote
  | escaped he _ ih =>
    match cs, hn with
    | a :: b :: cs, hn =>
      cases hall
      exact .escaped he (ih (by simp only [List.length_cons] at hn; omega) rfl)
  | plain hb hf hq _ ih =>
    match cs, hn with
    | a :: cs, hn =>
      cases hall
      exact .plain hb hf hq (ih (Nat.le_of_succ_le_succ hn) rfl)

theorem quotedAt_of_append (h : quotedAt (cs ++ ds) = .ok (s, n)) (hn : n ≤ cs.length) :
    quotedAt cs = .ok (s, n) := by
  have hread := ((readsQuoted_of_quotedAt h).of_append hn).quotedAt_append []
  rwa [List.append_nil] at hread

theorem rawAt_of_append (h : rawAt (cs ++ ds) = .ok (s, n)) (hn : n ≤ cs.length) :
    rawAt cs = .ok (s, n) := by
  obtain ⟨rfl, hs, r, hr⟩ := rawAt_split h
  have hquoted : s ++ [rawQuote] <+: cs :=
    List.prefix_of_prefix_length_le ⟨r, by simp [hr]⟩ (List.prefix_append cs ds) (by simpa using hn)
  obtain ⟨r', rfl⟩ := hquoted
  rw [List.append_assoc]
  exact rawAt_of_raw hs

/-- An item that lies before a closing brace is the same without what stands behind the brace. -/
theorem ReadsItem.of_append (h : ReadsItem c (r ++ ds) item n) (hr : closeBrace ∈ r)
    (hn : n ≤ r.length) : ReadsItem c r item n := by
  have hcr : closeBrace ∈ c :: r := List.mem_cons_of_mem c hr
  have hchain : chainAt (c :: (r ++ ds)) = chainAt (c :: r) := chainAt_append hcr
  have hnumeral : numeralAt (c :: (r ++ ds)) = numeralAt (c :: r) := numeralAt_append hcr
  have hname : nameAt (c :: (r ++ ds)) = nameAt (c :: r) := nameAt_append hcr
  cases h with
  | pipe hc => exact .pipe hc
  | leftParen hc => exact .leftParen hc
  | rightParen hc => exact .rightParen hc
  | quoted hc hq => exact .quoted hc (quotedAt_of_append hq hn)
  | raw hc hq => exact .raw hc (rawAt_of_append hq hn)
  | root hc hn' hch =>
    exact .root hc (by rw [← nameAt_append hr, hn']) (by rw [← chainAt_append hr, hch])
  | field hc hch hne => exact .field hc (by rw [← hchain, hch]) hne
  | dot hc hch hnum => exact .dot hc (by rw [← hchain, hch]) (by rw [← hnumeral, hnum])
  | number hm hch hnum hv =>
    exact .number hm (fun hc => by rw [← hchain, hch hc]) (by rw [← hnumeral, hnum]) hv
  | word hm hc hnum hn' hne =>
    exact .word hm hc (by rw [← hnumeral, hnum]) (by rw [← hname, hn']) hne

theorem closeBrace_mem_closer (trim : Bool) : closeBrace ∈ closer trim := by
  cases trim <;> decide

/-- The items of an action, without what stands behind its closing delimiter. -/
theorem ReadsItems.alone {pos : Nat} {b : Body} (h : ReadsItems pos cs b) :
    ∃ u, cs = u ++ (closer b.trim ++ b.rest) ∧
      ReadsItems pos (u ++ closer b.trim) { b with rest := [] } := by
  induction h with
  | @close pos lead trim rest hl =>
    refine ⟨lead, rfl, ?_⟩
    have hread : ReadsItems pos (lead ++ (closer trim ++ [])) _ := .close hl
    rwa [List.append_nil] at hread
  | @item pos lead c r item n b hl hi _ ih =>
    obtain ⟨u, hu, hread⟩ := ih
    obtain ⟨w, r', hw, hn, -⟩ := hi.split
    obtain ⟨a, w, rfl⟩ := List.exists_cons_of_ne_nil (List.ne_nil_of_length_eq_add_one hn)
    rw [List.cons_append, List.cons.injEq] at hw
    obtain ⟨rfl, rfl⟩ := hw
    have hlength : w.length = n := Nat.succ.inj hn
    rw [← hlength, List.drop_left] at hu
    subst hu
    have hall : w ++ (u ++ (closer b.trim ++ b.rest)) =
        w ++ (u ++ closer b.trim) ++ b.rest := by
      simp only [List.append_assoc]
    rw [hall] at hi
    have hbrace : closeBrace ∈ w ++ (u ++ closer b.trim) :=
      List.mem_append_right w (List.mem_append_right u (closeBrace_mem_closer _))
    have hnext : ReadsItems (pos + lead.length + n + 1)
        ((w ++ (u ++ closer b.trim)).drop n) { b with rest := [] } := by
      rw [← hlength, List.drop_left, hlength]
      exact hread
    refine ⟨lead ++ c :: (w ++ u), by simp [Body.push], ?_⟩
    have hread := ReadsItems.item hl (hi.of_append hbrace (by rw [List.length_append]; omega)) hnext
    simpa [Body.push] using hread

/-- A word stands where it is read. -/
theorem ReadsItem.word_at_head {w : String} (h : ReadsItem c r (.word w) n) :
    w.toList <+: c :: r := by
  generalize hitem : Item.word w = item at h
  cases h with
  | pipe | leftParen | rightParen | quoted | raw | root | field | dot | number => cases hitem
  | @word name _ _ _ hname hne =>
    obtain ⟨a, v, rfl⟩ := List.exists_cons_of_ne_nil hne
    obtain ⟨-, r', hr⟩ := nameAt_eq_cons hname
    have hw : w = String.ofList (a :: v) := by
      unfold wordItem at hitem
      dsimp only at hitem
      split at hitem
      · cases hitem
      · split at hitem
        · cases hitem
        · split at hitem
          · cases hitem
          · exact Item.word.inj hitem
    rw [hw, hr, String.toList_ofList]
    exact List.prefix_append ..

/-- The first item, if it is a word, stands behind the blanks. -/
theorem ReadsItems.head_word {pos p : Nat} {b : Body} {w : String} {rest : List Placed}
    (h : ReadsItems pos cs b) (hb : b.items = ⟨.word w, p⟩ :: rest) :
    ∃ lead, p = pos + lead.length ∧ lead ++ w.toList <+: cs := by
  cases h with
  | close => cases hb
  | @item _ lead _ _ _ _ _ hl hi _ =>
    cases hb
    exact ⟨lead, rfl, (List.prefix_append_right_inj lead).mpr hi.word_at_head⟩

/-- What is known of the characters of an action. -/
structure Action.IsWritten (a : Action) (chars : List Char) : Prop where
  stop : a.stop = a.pos + chars.length
  opens : leftDelim <+: chars
  closes : rightDelim <:+ chars
  /-- Nothing but the action is read from its characters. -/
  alone : piecesAt a.pos chars = .ok [.action a]
  /-- A word at the head stands behind the opening delimiter. -/
  word : ∀ w p rest, a.items = ⟨.word w, p⟩ :: rest →
    ∃ lead, p = a.pos + lead.length ∧ leftDelim <+: lead ∧ lead ++ w.toList <+: chars

theorem ReadsItems.isWritten {start : Nat} {before : Bool} {inner : List Char} {b : Body}
    (h : ReadsItems (start + 2 + (dash before).length) inner b)
    (ht : trimsBefore (dash before ++ inner) = before) :
    ∃ chars, leftDelim ++ (dash before ++ inner) = chars ++ b.rest ∧
      Action.IsWritten ⟨start, b.items, b.close, b.stop⟩ chars := by
  obtain ⟨hcomment, v, hv, hchars⟩ := h.exists_chars
  obtain ⟨u, rfl, hread⟩ := h.alone
  obtain rfl := List.append_cancel_right hv
  have hclose := hchars.close
  have hstop := hchars.stop
  have hcloser := two_le_length_closer b.trim
  have hassoc : dash before ++ (u ++ (closer b.trim ++ b.rest)) =
      dash before ++ (u ++ closer b.trim) ++ b.rest := by
    simp only [List.append_assoc]
  have hlong : 2 ≤ (dash before ++ (u ++ closer b.trim)).length := by
    simp only [List.length_append]
    omega
  have hopened : trimsBefore (dash before ++ (u ++ closer b.trim)) = before := by
    rw [← trimsBefore_append hlong b.rest, ← hassoc, ht]
  refine ⟨leftDelim ++ (dash before ++ (u ++ closer b.trim)), by simp, ?_, ?_, ?_, ?_, ?_⟩
  · simp only [List.length_append, leftDelim, List.length_cons, List.length_nil]
    omega
  · exact List.prefix_append ..
  · rw [← List.append_assoc, ← List.append_assoc]
    exact (closer_suffix b.trim).trans (List.suffix_append ..)
  · have hnone : ¬ leftDelim <:+: [] := by decide
    have hdrops : Drops b.trim [] [] := ⟨by simp, by simp, fun _ => rfl⟩
    have halone : ReadsPieces start
        ([] ++ (leftDelim ++ (dash before ++ (u ++ closer b.trim)))) _ :=
      .more (by decide) hopened (.items hread) rfl hdrops (.last hnone)
    have hkept : keptText before [] = [] := by cases before <;> rfl
    have hpieces := piecesAt_of_readsPieces halone
    rw [hkept] at hpieces
    simpa [textPiece, Body.pieces, hcomment] using hpieces
  · rintro w p rest hitems
    obtain ⟨lead, rfl, hlead⟩ := hread.head_word hitems
    refine ⟨leftDelim ++ (dash before ++ lead), ?_, List.prefix_append .., ?_⟩
    · simp only [List.length_append, leftDelim, List.length_cons, List.length_nil]
      omega
    · simpa [List.append_assoc] using hlead

theorem mem_textPiece {pos : Nat} {p : Piece} (h : p ∈ textPiece pos cs) : p = .text pos cs := by
  cases cs with
  | nil => cases h
  | cons c cs => exact List.mem_singleton.mp h

/-- Every action of a source stands in it where it says. -/
theorem ReadsPieces.exists_action {pos : Nat} {ps : List Piece} {a : Action}
    (h : ReadsPieces pos cs ps) (ha : .action a ∈ ps) : ∃ before chars behind,
      cs = before ++ (chars ++ behind) ∧ a.pos = pos + before.length ∧ a.IsWritten chars := by
  induction h with
  | last => cases mem_textPiece ha
  | @more pos text before inner b blanks rest ps hn ht hb hr hd _ ih =>
    rcases List.mem_append.mp ha with ha | ha
    · rcases List.mem_append.mp ha with ha | ha
      · cases mem_textPiece ha
      · cases hb with
        | comment => cases ha
        | items hb =>
          obtain ⟨chars, hchars, hwritten⟩ := hb.isWritten ht
          rw [Body.pieces, if_neg (by simp [hb.exists_chars.1])] at ha
          cases List.mem_singleton.mp ha
          exact ⟨text, chars, b.rest, by rw [hchars], rfl, hwritten⟩
    · obtain ⟨front, chars, behind, hrest, hpos, hwritten⟩ := ih ha
      obtain ⟨u, rfl, hchars, -⟩ := hb.exists_chars
      have hclose := hchars.close
      have hstop := hchars.stop
      refine ⟨text ++ (leftDelim ++ (dash before ++ (u ++ (closer b.trim ++ (blanks ++ front))))),
        chars, behind, ?_, ?_, hwritten⟩
      · rw [hr, hrest]
        simp only [List.append_assoc]
      · rw [hpos]
        simp only [List.length_append, leftDelim, List.length_cons, List.length_nil]
        omega

end AlertRelay.Template
