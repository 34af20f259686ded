import AlertRelay.Proofs.Template.TreeReading
import AlertRelay.Proofs.Template.PieceReading

/-!
Cutting a source loses and invents nothing: texts, actions, comments and dropped blanks lie end to
end and make up the source. Blanks are dropped at the marks that ask for it only, and there all of
them are.
-/

namespace AlertRelay.Template

open AlertRelay.Text

/-- Whether an action or a comment ends with the mark that asks for the blanks after it to be
dropped. -/
def trimsAfter (chars : List Char) : Bool :=
  match chars.reverse with
  | '\x7d' :: '\x7d' :: '-' :: c :: _ => isBlank c
  | _ => false

/-- A comment with its delimiters. -/
inductive IsComment : List Char → Prop
  | mk {before trim lead body trail} : (before = true → lead ≠ []) →
      (∀ a ∈ lead, isBlank a = true) → ¬ ['*', '/'] <:+: body → LeadsTo trim trail →
      IsComment (leftDelim ++ (dash before ++ (lead ++ '/' :: '*' ::
        (body ++ '*' :: '/' :: (trail ++ closer trim)))))

/-- A part of a source, with its characters. -/
inductive Span where
  | text (pos : Nat) (content : List Char)
  | action (a : Action) (chars : List Char)
  | comment (chars : List Char)
  | blanks (chars : List Char)

namespace Span

def chars : Span → List Char
  | .text _ content => content
  | .action _ chars => chars
  | .comment chars => chars
  | .blanks chars => chars

def piece? : Span → Option Piece
  | .text pos content => some (.text pos content)
  | .action a _ => some (.action a)
  | .comment _ => none
  | .blanks _ => none

def IsBlanks : Span → Prop
  | .blanks _ => True
  | _ => False

/-- An action or a comment that opens with the mark that asks for the blanks before it to be
dropped. -/
def TrimsBefore : Span → Prop
  | .action _ chars => trimsBefore (chars.drop 2) = true
  | .comment chars => trimsBefore (chars.drop 2) = true
  | _ => False

def TrimsAfter : Span → Prop
  | .action _ chars => trimsAfter chars = true
  | .comment chars => trimsAfter chars = true
  | _ => False

/-- What a span that starts at `pos` has to be. -/
def IsAt (pos : Nat) : Span → Prop
  | .text start content => start = pos ∧ content ≠ [] ∧ ¬ leftDelim <:+: content
  | .action a chars =>
    a.pos = pos ∧ a.stop = pos + chars.length ∧ leftDelim <+: chars ∧ rightDelim <:+ chars
  | .comment chars => IsComment chars
  | .blanks chars => chars ≠ [] ∧ ∀ c ∈ chars, isBlank c = true

/-- Two spans that follow each other: no blank is left beside dropped ones, nor at a mark that drops
blanks. -/
structure Meets (s t : Span) : Prop where
  after : s.IsBlanks ∨ s.TrimsAfter ∧ ¬ t.IsBlanks → ∀ c ∈ t.chars.head?, isBlank c = false
  before : t.IsBlanks ∨ t.TrimsBefore ∧ ¬ s.IsBlanks → ∀ c ∈ s.chars.getLast?, isBlank c = false

/-- Spans that lie end to end from position `pos` on, the first of them after `previous`. Blanks are
dropped only right after or right before a mark that asks for it. -/
def Laid : Option Span → Nat → List Span → Prop
  | _, _, [] => True
  | previous, pos, s :: rest =>
    s.IsAt pos ∧ (∀ p ∈ previous, Meets p s) ∧
      (s.IsBlanks → (∃ p ∈ previous, p.TrimsAfter) ∨ ∃ t ∈ rest.head?, t.TrimsBefore) ∧
      Laid (some s) (pos + s.chars.length) rest

end Span

theorem trimsAfter_closer {xs : List Char} {trim : Bool}
    (hb : trim = true → ∃ v c, xs = v ++ [c] ∧ isBlank c = true)
    (hl : trim = false → xs.getLast? ≠ some '-') : trimsAfter (xs ++ closer trim) = trim := by
  unfold trimsAfter
  rw [List.reverse_append]
  cases trim with
  | true =>
    obtain ⟨v, c, rfl, hc⟩ := hb rfl
    simp [closer, rightDelim, hc]
  | false =>
    have hlast := hl rfl
    rw [← List.head?_reverse] at hlast
    cases hr : xs.reverse with
    | nil => rfl
    | cons a ys =>
      rw [hr] at hlast
      simp only [closer, rightDelim]
      split
      · next he => simp_all
      · rfl

namespace Span

/-- What the spans around an action or a comment need to know of it. -/
structure IsDelimited (before after : Bool) (m : Span) : Prop where
  not_blanks : ¬ m.IsBlanks
  head : m.chars.head? = some '\x7b'
  last : m.chars.getLast? = some '\x7d'
  trimsBefore_iff : m.TrimsBefore ↔ before = true
  trimsAfter_iff : m.TrimsAfter ↔ after = true

/-- The span of a body that is opened at `start`. -/
def ofBody (start : Nat) (b : Body) (chars : List Char) : Span :=
  if b.comment then .comment chars else .action ⟨start, b.items, b.close, b.stop⟩ chars

theorem chars_ofBody (start : Nat) (b : Body) (chars : List Char) :
    (ofBody start b chars).chars = chars := by
  unfold ofBody
  split <;> rfl

theorem piece?_ofBody (start : Nat) (b : Body) (chars : List Char) :
    (ofBody start b chars).piece?.toList = b.pieces start := by
  unfold ofBody Body.pieces
  split <;> rfl

theorem isDelimited_ofBody {before after : Bool} {chars : List Char} (start : Nat) (b : Body)
    (hhead : chars.head? = some '\x7b') (hlast : chars.getLast? = some '\x7d')
    (hb : Template.trimsBefore (chars.drop 2) = before) (ha : trimsAfter chars = after) :
    IsDelimited before after (ofBody start b chars) := by
  subst hb ha
  unfold ofBody
  split <;> exact ⟨id, hhead, hlast, Iff.rfl, Iff.rfl⟩

end Span

theorem closer_suffix (trim : Bool) : rightDelim <:+ closer trim := by
  cases trim
  · exact List.suffix_refl _
  · exact List.suffix_cons _ _

theorem getLast_closer (trim : Bool) (xs : List Char) :
    (xs ++ closer trim).getLast? = some '\x7d' := by
  rw [List.getLast?_append]
  cases trim <;> rfl

theorem two_le_length_closer (trim : Bool) : 2 ≤ (closer trim).length := by
  cases trim <;> decide

/-- A blank follows the mark that drops blanks before an action. -/
theorem ne_nil_of_trimsBefore {u rest : List Char} {trim : Bool}
    (h : trimsBefore ('-' :: (u ++ (closer trim ++ rest))) = true) : u ≠ [] := by
  rintro rfl
  obtain ⟨c, r, hc, hb⟩ := closer_head trim rest
  rw [List.nil_append, hc, trimsBefore, hb] at h
  cases h

/-- A minus sign stands before a closing delimiter only as part of it. -/
theorem getLast_opened {u rest : List Char} {before trim : Bool} (hu : u.getLast? ≠ some '-')
    (ht : trimsBefore (dash before ++ (u ++ (closer trim ++ rest))) = before) :
    (leftDelim ++ (dash before ++ u)).getLast? ≠ some '-' := by
  by_cases hnil : u = []
  · cases before with
    | true => exact absurd hnil (ne_nil_of_trimsBefore ht)
    | false =>
      subst hnil
      decide
  · rw [List.getLast?_append, List.getLast?_append]
    rw [List.getLast?_eq_some_getLast hnil] at hu ⊢
    exact hu

/-- A body with its delimiters is a span. -/
theorem ReadsBody.exists_span {start : Nat} {before : Bool} {inner : List Char} {b : Body}
    (h : ReadsBody (start + 2 + (dash before).length) inner b)
    (ht : trimsBefore (dash before ++ inner) = before) :
    ∃ chars, leftDelim ++ (dash before ++ inner) = chars ++ b.rest ∧ b.stop = start + chars.length ∧
      (Span.ofBody start b chars).IsAt start ∧
      Span.IsDelimited before b.trim (Span.ofBody start b chars) := by
  obtain ⟨u, rfl, hb, hcomment⟩ := h.exists_chars
  have hstop : b.stop = start + (leftDelim ++ (dash before ++ (u ++ closer b.trim))).length := by
    have := hb.close
    rw [hb.stop]
    simp only [List.length_append, leftDelim, List.length_cons, List.length_nil]
    omega
  refine ⟨leftDelim ++ (dash before ++ (u ++ closer b.trim)), by simp, hstop, ?_, ?_⟩
  · unfold Span.ofBody
    split
    · next hc =>
      obtain ⟨lead, body, trail, rfl, hl, hbody, htrail⟩ := (hcomment hc).exists_parts
      have hlead : before = true → lead ≠ [] := by
        rintro rfl rfl
        exact absurd ht (by simp [dash, trimsBefore, isBlank])
      have := IsComment.mk hlead hl hbody htrail
      simpa [Span.IsAt] using this
    · refine ⟨rfl, hstop, List.prefix_append .., ?_⟩
      have := closer_suffix b.trim
      rw [← List.append_assoc, ← List.append_assoc]
      exact this.trans (List.suffix_append ..)
  · have hassoc : leftDelim ++ (dash before ++ (u ++ closer b.trim)) =
        (leftDelim ++ (dash before ++ u)) ++ closer b.trim := by simp
    refine Span.isDelimited_ofBody start b rfl (by rw [hassoc, getLast_closer]) ?_ ?_
    · have hlen : 2 ≤ (dash before ++ (u ++ closer b.trim)).length := by
        have := two_le_length_closer b.trim
        simp only [List.length_append]
        omega
      have := trimsBefore_append hlen b.rest
      rw [List.append_assoc, List.append_assoc, ht] at this
      exact this.symm
    · rw [hassoc]
      refine trimsAfter_closer (fun htrim => ?_) (fun htrim => ?_)
      · obtain ⟨v, c, rfl, hc⟩ := hb.blank_of_trim htrim
        exact ⟨leftDelim ++ (dash before ++ v), c, by simp, hc⟩
      · exact getLast_opened (hb.last_of_not_trim htrim) ht

/-- A text is what is kept of it before an action, and the blanks that are dropped there. -/
theorem keptText_split (before : Bool) (text : List Char) :
    ∃ dropped, text = keptText before text ++ dropped ∧ (∀ a ∈ dropped, isBlank a = true) ∧
      (before = false → dropped = []) ∧
      (before = true → ∀ a ∈ (keptText before text).getLast?, isBlank a = false) := by
  cases before with
  | false => exact ⟨[], by simp [keptText], by simp, fun _ => rfl, by simp⟩
  | true =>
    obtain ⟨lead, rest, hr, hl, hh, -, hdrop⟩ := exists_blanks text.reverse
    have hkept : keptText true text = rest.reverse := by
      simp [keptText, trimEndBy, hdrop]
    refine ⟨lead.reverse, ?_, by simpa using hl, by simp, fun _ a ha => ?_⟩
    · rw [hkept, ← List.reverse_append, ← hr, List.reverse_reverse]
    · rw [hkept, List.getLast?_reverse] at ha
      exact hh a ha

namespace Span

/-- The span before some place leaves no blank to an action that drops the blanks before it. -/
def EndsBare (before : Bool) (previous : Option Span) : Prop :=
  before = true → ∀ p ∈ previous, ¬ p.IsBlanks → ∀ c ∈ p.chars.getLast?, isBlank c = false

/-- The characters `cs` after some span begin with no blank that ought to have been dropped. -/
def BeginsBare (previous : Option Span) (cs : List Char) : Prop :=
  ∀ p ∈ previous, p.IsBlanks ∨ p.TrimsAfter → ∀ c ∈ cs.head?, isBlank c = false

variable {before after : Bool} {previous : Option Span} {m : Span} {pos : Nat}

theorem BeginsBare.meets_text {content r : List Char} (h : BeginsBare previous (content ++ r))
    (hne : content ≠ []) : ∀ p ∈ previous, Meets p (.text pos content) := by
  obtain ⟨a, content, rfl⟩ := List.exists_cons_of_ne_nil hne
  intro p hp
  refine ⟨fun ht c hc => h p hp (ht.imp_right And.left) c hc, fun ht => ?_⟩
  rcases ht with ht | ht
  · exact ht.elim
  · exact ht.1.elim

theorem BeginsBare.meets_blanks {blanks r : List Char} (h : BeginsBare previous (blanks ++ r))
    (hlast : EndsBare true previous) (hb : ∀ a ∈ blanks, isBlank a = true) (hne : blanks ≠ []) :
    ∀ p ∈ previous, Meets p (.blanks blanks) := by
  obtain ⟨a, blanks, rfl⟩ := List.exists_cons_of_ne_nil hne
  have ha := hb a (List.mem_cons_self ..)
  intro p hp
  have hp' : ¬ (p.IsBlanks ∨ p.TrimsAfter) := by
    intro ht
    have := h p hp ht a rfl
    rw [ha] at this
    cases this
  exact ⟨fun ht => absurd (ht.imp_right And.left) hp',
    fun _ => hlast rfl p hp (fun hi => hp' (.inl hi))⟩

theorem IsDelimited.meets (hm : IsDelimited before after m) (h : EndsBare before previous) :
    ∀ p ∈ previous, Meets p m := by
  intro p hp
  refine ⟨fun _ c hc => ?_, fun ht => ?_⟩
  · rw [hm.head] at hc
    cases hc
    decide
  · rcases ht with ht | ⟨ht, hb⟩
    · exact absurd ht hm.not_blanks
    · exact h (hm.trimsBefore_iff.mp ht) p hp hb

/-- Spans after some span that make up the characters `cs`, with the pieces `ps`. -/
def Covers (previous : Option Span) (pos : Nat) (cs : List Char) (ps : List Piece) : Prop :=
  ∃ spans, Laid previous pos spans ∧ spans.flatMap chars = cs ∧ spans.filterMap piece? = ps

theorem covers_nil : Covers previous pos [] [] := ⟨[], trivial, rfl, rfl⟩

/-- A text, and whatever follows it. -/
theorem covers_text {kept r : List Char} {ps : List Piece} (hn : ¬ leftDelim <:+: kept)
    (hkept : before = true → ∀ a ∈ kept.getLast?, isBlank a = false)
    (hlast : EndsBare before previous) (hhead : BeginsBare previous (kept ++ r))
    (h : ∀ previous, EndsBare before previous → BeginsBare previous r →
      Covers previous (pos + kept.length) r ps) :
    Covers previous pos (kept ++ r) (textPiece pos kept ++ ps) := by
  cases kept with
  | nil => exact h previous hlast hhead
  | cons a kept =>
    have hne : a :: kept ≠ [] := List.cons_ne_nil a kept
    have hbare : BeginsBare (some (.text pos (a :: kept))) r := by
      intro p hp ht
      cases hp
      exact (ht.elim id id).elim
    obtain ⟨spans, hlaid, hchars, hpieces⟩ := h (some (.text pos (a :: kept)))
      (fun hb p hp _ => by cases hp; exact hkept hb) hbare
    refine ⟨.text pos (a :: kept) :: spans,
      ⟨⟨rfl, hne, hn⟩, hhead.meets_text hne, fun hb => hb.elim, hlaid⟩, ?_, ?_⟩
    · rw [List.flatMap_cons, hchars]
      rfl
    · rw [List.filterMap_cons, hpieces]
      rfl

/-- The blanks that are dropped before an action, the action and what follows it. -/
theorem IsDelimited.covers_before {dropped r : List Char} {ps : List Piece}
    (hm : IsDelimited before after m) (hlast : EndsBare before previous)
    (hhead : BeginsBare previous (dropped ++ (m.chars ++ r)))
    (hb : ∀ a ∈ dropped, isBlank a = true) (hnil : before = false → dropped = [])
    (hat : m.IsAt (pos + dropped.length))
    (h : Covers (some m) (pos + dropped.length + m.chars.length) r ps) :
    Covers previous pos (dropped ++ (m.chars ++ r)) (m.piece?.toList ++ ps) := by
  obtain ⟨spans, hlaid, rfl, rfl⟩ := h
  have hpieces : (m :: spans).filterMap piece? = m.piece?.toList ++ spans.filterMap piece? := by
    rw [List.filterMap_cons]
    cases m.piece? <;> rfl
  by_cases hd : dropped = []
  · subst hd
    exact ⟨m :: spans, ⟨hat, hm.meets hlast, fun hb => absurd hb hm.not_blanks, hlaid⟩, rfl,
      hpieces⟩
  · cases before with
    | false => exact absurd (hnil rfl) hd
    | true =>
      have hbare : EndsBare true (some (.blanks dropped)) := by
        intro _ p hp hnb
        cases hp
        exact absurd trivial hnb
      refine ⟨.blanks dropped :: m :: spans,
        ⟨⟨hd, hb⟩, hhead.meets_blanks hlast hb hd, fun _ => .inr ⟨m, rfl, ?_⟩,
          hat, hm.meets hbare, fun hb => absurd hb hm.not_blanks, hlaid⟩, rfl, hpieces⟩
      exact hm.trimsBefore_iff.mpr rfl

/-- The blanks that are dropped after an action, and whatever follows them. -/
theorem IsDelimited.covers_after {blanks rest : List Char} {ps : List Piece}
    (hm : IsDelimited before after m) (hd : Drops after blanks rest)
    (h : ∀ previous, EndsBare true previous → BeginsBare previous rest →
      Covers previous (pos + blanks.length) rest ps) :
    Covers (some m) pos (blanks ++ rest) ps := by
  have hlast : ∀ c ∈ m.chars.getLast?, isBlank c = false := by
    intro c hc
    rw [hm.last] at hc
    cases hc
    decide
  by_cases hb : blanks = []
  · subst hb
    refine h (some m) (fun _ p hp _ => ?_) (fun p hp ht => ?_)
    · cases hp
      exact hlast
    · cases hp
      exact hd.all (hm.trimsAfter_iff.mp (ht.resolve_left hm.not_blanks))
  · have hafter : after = true := by
      cases after with
      | false => exact absurd (hd.none rfl) hb
      | true => rfl
    obtain ⟨spans, hlaid, hchars, hpieces⟩ := h (some (.blanks blanks))
      (fun _ p hp hnb => by cases hp; exact absurd trivial hnb)
      (fun p hp _ => by cases hp; exact hd.all hafter)
    refine ⟨.blanks blanks :: spans, ⟨⟨hb, hd.blank⟩, ?_, fun _ => .inl ?_, hlaid⟩, ?_, hpieces⟩
    · intro p hp
      cases hp
      refine ⟨fun ht => ?_, fun _ => hlast⟩
      rcases ht with ht | ⟨-, ht⟩
      · exact absurd ht hm.not_blanks
      · exact absurd trivial ht
    · exact ⟨m, rfl, hm.trimsAfter_iff.mpr hafter⟩
    · rw [List.flatMap_cons, hchars]
      rfl

end Span

open AlertRelay.Template.Span in
/-- Every source that is cut is made up of spans, and the pieces are those of the spans. -/
theorem ReadsPieces.covers {pos : Nat} {cs : List Char} {ps : List Piece}
    (h : ReadsPieces pos cs ps) (previous : Option Span) (hlast : EndsBare true previous)
    (hhead : BeginsBare previous cs) : Covers previous pos cs ps := by
  -- What stands before the source varies: after an action it is the action or its dropped blanks.
  induction h generalizing previous with
  | @last pos cs hn =>
    have hkept : false = true → ∀ a ∈ cs.getLast?, isBlank a = false := fun h => by cases h
    have hall : Covers previous pos (cs ++ []) (textPiece pos cs ++ []) :=
      covers_text hn hkept (fun _ => hlast rfl) (by rwa [List.append_nil]) fun _ _ _ => covers_nil
    rwa [List.append_nil, List.append_nil] at hall
  | @more pos text before inner b blanks rest ps hn ht hb hr hd _ ih =>
    obtain ⟨chars, hchars, hstop, hat, hm⟩ := hb.exists_span ht
    have htail := hm.covers_after hd ih
    obtain ⟨dropped, htext, hblank, hnil, hkept⟩ := keptText_split before text
    generalize keptText before text = kept at htext hkept ⊢
    subst htext
    have hall : kept ++ dropped ++ (leftDelim ++ (dash before ++ inner)) =
        kept ++ (dropped ++ (chars ++ (blanks ++ rest))) := by
      rw [hchars, hr, List.append_assoc]
    rw [hall] at hhead ⊢
    have hmchars := chars_ofBody (pos + (kept ++ dropped).length) b chars
    rw [← piece?_ofBody (pos + (kept ++ dropped).length) b chars, List.append_assoc]
    generalize ofBody (pos + (kept ++ dropped).length) b chars = m at *
    subst hmchars
    have hn : ¬ leftDelim <:+: kept := by
      refine fun hi => hn (hi.trans ?_)
      rw [List.append_assoc]
      exact (List.prefix_append ..).isInfix
    rw [hstop] at htail
    rw [List.length_append, ← Nat.add_assoc] at hat htail
    exact covers_text hn hkept (fun _ => hlast rfl) hhead fun previous hlast hhead =>
      hm.covers_before hlast hhead hblank hnil hat htail

/-!
The order of tokens.
-/

theorem mem_tokens_textPiece {pos : Nat} {text : List Char} {t : Token}
    (h : t ∈ tokens (textPiece pos text)) : t.pos = pos ∧ text ≠ [] := by
  cases text with
  | nil => cases h
  | cons a text =>
    cases List.mem_singleton.mp h
    exact ⟨rfl, List.cons_ne_nil _ _⟩

theorem pairwise_tokens_textPiece (pos : Nat) (text : List Char) :
    (tokens (textPiece pos text)).Pairwise (·.pos < ·.pos) := by
  cases text with
  | nil => exact .nil
  | cons a text => exact List.pairwise_singleton _ _

/-- The tokens of an action lie within it. -/
theorem BodyChars.mem_tokens {start pos : Nat} {u : List Char} {b : Body} (h : BodyChars pos u b)
    (hstart : start < pos) : ∀ t ∈ tokens (b.pieces start), start ≤ t.pos ∧ t.pos < b.stop := by
  have hclose := h.close
  have hstop := h.stop
  have hlen := two_le_length_closer b.trim
  intro t ht
  rcases mem_tokens_pieces ht with rfl | ⟨i, hi, rfl⟩ | rfl
  · simp only [Token.pos]
    omega
  · have hfrom := h.from_pos i hi
    have hbefore := h.before_close i hi
    simp only [Token.pos]
    omega
  · simp only [Token.pos]
    omega

theorem BodyChars.tokens_ordered {start pos : Nat} {u : List Char} {b : Body}
    (h : BodyChars pos u b) (hstart : start < pos) :
    (tokens (b.pieces start)).Pairwise (·.pos < ·.pos) := by
  have hclose := h.close
  unfold Body.pieces
  split
  · exact .nil
  · rw [tokens, List.flatMap_singleton]
    refine List.pairwise_cons.mpr ⟨fun t ht => ?_, List.pairwise_append.mpr ⟨?_, ?_, ?_⟩⟩
    · rcases List.mem_append.mp ht with ht | ht
      · obtain ⟨i, hi, rfl⟩ := List.mem_map.mp ht
        exact Nat.lt_of_lt_of_le hstart (h.from_pos i hi)
      · cases List.mem_singleton.mp ht
        simp only [Token.pos]
        omega
    · exact List.pairwise_map.mpr h.ordered
    · exact List.pairwise_singleton _ _
    · intro s hs t ht
      obtain ⟨i, hi, rfl⟩ := List.mem_map.mp hs
      cases List.mem_singleton.mp ht
      exact h.before_close i hi

theorem ReadsPieces.ordered {pos : Nat} {cs : List Char} {ps : List Piece}
    (h : ReadsPieces pos cs ps) :
    (tokens ps).Pairwise (·.pos < ·.pos) ∧ ∀ t ∈ tokens ps, pos ≤ t.pos := by
  induction h with
  | last =>
    exact ⟨pairwise_tokens_textPiece _ _,
      fun t ht => Nat.le_of_eq (mem_tokens_textPiece ht).1.symm⟩
  | @more pos text before inner b blanks rest ps hn ht hb hr hd _ ih =>
    obtain ⟨u, -, hu, -⟩ := hb.exists_chars
    have hstart : pos + text.length < pos + text.length + 2 + (dash before).length := by omega
    have hbody := hu.tokens_ordered hstart
    have hwithin := hu.mem_tokens hstart
    obtain ⟨hrest, hfrom⟩ := ih
    have hkept : ∀ t ∈ tokens (textPiece pos (keptText before text)),
        t.pos = pos ∧ 0 < text.length := by
      intro t ht
      obtain ⟨hpos, hne⟩ := mem_tokens_textPiece ht
      obtain ⟨dropped, htext, -⟩ := keptText_split before text
      refine ⟨hpos, List.length_pos_iff.mpr ?_⟩
      rw [htext]
      exact fun he => hne (List.append_eq_nil_iff.mp he).1
    rw [tokens_append, tokens_append]
    refine ⟨List.pairwise_append.mpr ⟨List.pairwise_append.mpr
      ⟨pairwise_tokens_textPiece _ _, hbody, fun s hs t ht => ?_⟩, hrest, fun s hs t ht => ?_⟩,
      fun t ht => ?_⟩
    · have := hkept s hs
      have := hwithin t ht
      omega
    · have := hfrom t ht
      have hstop := hu.stop
      have hclose := hu.close
      rcases List.mem_append.mp hs with hs | hs
      · have := hkept s hs
        omega
      · have := hwithin s hs
        omega
    · have hstop := hu.stop
      have hclose := hu.close
      rcases List.mem_append.mp ht with ht | ht
      · rcases List.mem_append.mp ht with ht | ht
        · have := hkept t ht
          omega
        · have := hwithin t ht
          omega
      · have := hfrom t ht
        omega

theorem opening_after_items {items : List Placed} {close stop pos : Nat} {ts xs ys : List Token}
    (h : items.map Token.item ++ .closing close stop :: ts = xs ++ .opening pos :: ys) :
    ∃ zs, ts = zs ++ .opening pos :: ys := by
  induction items generalizing xs with
  | nil =>
    cases xs with
    | nil => cases h
    | cons x xs => exact ⟨xs, (List.cons.inj h).2⟩
  | cons i items ih =>
    cases xs with
    | nil => cases h
    | cons x xs => exact ih (List.cons.inj h).2

/-- After an opening delimiter come items only, up to a closing one. -/
theorem exists_closing {ps : List Piece} {pos : Nat} {xs ys : List Token}
    (h : tokens ps = xs ++ .opening pos :: ys) :
    ∃ items close stop zs, ys = List.map Token.item items ++ .closing close stop :: zs := by
  induction ps generalizing xs with
  | nil => exact absurd h.symm (by simp [tokens])
  | cons p ps ih =>
    cases p with
    | text start content =>
      cases xs with
      | nil => cases h
      | cons x xs => exact ih (List.cons.inj h).2
    | action a =>
      cases xs with
      | nil =>
        simp only [tokens, List.flatMap_cons, Piece.tokens, List.cons_append, List.append_assoc,
          List.nil_append, List.cons.injEq] at h
        exact ⟨_, _, _, _, h.2.symm⟩
      | cons x xs =>
        simp only [tokens, List.flatMap_cons, Piece.tokens, List.cons_append, List.append_assoc,
          List.nil_append, List.cons.injEq] at h
        obtain ⟨zs, hzs⟩ := opening_after_items h.2
        exact ih hzs

/-- A source that is cut is the concatenation of its texts, its actions, its comments and the
blanks dropped at trim marks, which `Span.Laid` has lie end to end. The positions of its tokens
ascend, and between two delimiters stand items only. -/
theorem pieces_cover {source : List Char} {ps : List Piece} (h : pieces source = .ok ps) :
    (∃ spans, Span.Laid none 0 spans ∧ spans.flatMap Span.chars = source ∧
      spans.filterMap Span.piece? = ps) ∧
    (tokens ps).Pairwise (·.pos < ·.pos) ∧
    ∀ xs pos ys, tokens ps = xs ++ .opening pos :: ys →
      ∃ items close stop zs, ys = List.map Token.item items ++ .closing close stop :: zs := by
  have hr := pieces_eq_ok_iff.mp h
  exact ⟨hr.covers none (fun _ _ hp => by cases hp) (fun _ hp => by cases hp), hr.ordered.1,
    fun xs pos ys => exists_closing⟩

/-- A comment between trim marks, and an action with a delimiter in its text. -/
theorem pieces_cover_trimmed :
    pieces "a \x7b\x7b- /* c */ -\x7d\x7d b\x7b\x7b \x60\x7d\x7d\x60 -\x7d\x7d ".toList =
      .ok [.text 0 ['a'], .text 18 ['b'],
        .action ⟨19, [⟨.constant (.text "\x7d\x7d"), 22⟩], 27, 30⟩] ∧
    ∃ spans, Span.Laid none 0 spans ∧ spans.flatMap Span.chars =
        "a \x7b\x7b- /* c */ -\x7d\x7d b\x7b\x7b \x60\x7d\x7d\x60 -\x7d\x7d ".toList ∧
      spans.filterMap Span.piece? = [.text 0 ['a'], .text 18 ['b'],
        .action ⟨19, [⟨.constant (.text "\x7d\x7d"), 22⟩], 27, 30⟩] :=
  have h : pieces "a \x7b\x7b- /* c */ -\x7d\x7d b\x7b\x7b \x60\x7d\x7d\x60 -\x7d\x7d ".toList =
      .ok [.text 0 ['a'], .text 18 ['b'],
        .action ⟨19, [⟨.constant (.text "\x7d\x7d"), 22⟩], 27, 30⟩] := by with_unfolding_all rfl
  ⟨h, (pieces_cover h).1⟩

end AlertRelay.Template
