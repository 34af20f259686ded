import AlertRelay.Proofs.Template.PieceReading
import AlertRelay.Proofs.Template.Spelling
import AlertRelay.Proofs.Template.TreeReading

/-!
A template is written from texts, comments and the items of actions. Cutting what was written gives
back the texts and the items, whatever blanks stand between them.
-/

namespace AlertRelay.Template

open AlertRelay.Number AlertRelay.Text

/-- Blanks, at least one. -/
def IsGap (cs : List Char) : Prop := cs ≠ [] ∧ ∀ a ∈ cs, isBlank a = true

/-- A part of a template as it is written. Blanks stand before each item of an action and before
its end. -/
inductive Segment where
  | text (content : List Char)
  | comment (body : List Char)
  | action (items : List (List Char × Spelling)) (gap : List Char)

namespace Segment

def itemChars (x : List Char × Spelling) : List Char := x.1 ++ x.2.chars

def chars : Segment → List Char
  | .text content => content
  | .comment body => leftDelim ++ ('/' :: '*' :: (body ++ '*' :: '/' :: rightDelim))
  | .action items gap => leftDelim ++ (items.flatMap itemChars ++ (gap ++ rightDelim))

def IsText : Segment → Prop
  | .text _ => True
  | _ => False

def Valid : Segment → Prop
  | .text content => content ≠ [] ∧ ¬ leftDelim <:+: content
  | .comment body => ¬ ['*', '/'] <:+: body
  | .action items gap => (∀ x ∈ items, IsGap x.1 ∧ x.2.Valid) ∧ IsGap gap

end Segment

/-- Segments that can be written one after the other: no two texts meet, and a text before another
segment does not end in a brace that would open it too early. -/
def Writable : List Segment → Prop
  | [] => True
  | s :: rest =>
    s.Valid ∧ (s.IsText → ∀ t ∈ rest.head?, ¬ t.IsText ∧ s.chars.getLast? ≠ some '\x7b') ∧
      Writable rest

/-- A token without its position. -/
inductive Lexeme where
  | text (content : List Char)
  | opening
  | item (i : Item)
  | closing
  deriving DecidableEq, Repr

def Token.lexeme : Token → Lexeme
  | .text _ content => .text content
  | .opening _ => .opening
  | .item t => .item t.item
  | .closing _ _ => .closing

def Segment.lexemes : Segment → List Lexeme
  | .text content => [.text content]
  | .comment _ => []
  | .action items _ => .opening :: (items.map (fun x => .item x.2.item) ++ [.closing])

theorem IsGap.leadsTo {gap : List Char} (h : IsGap gap) : LeadsTo false gap := ⟨h.2, nofun⟩

/-- The next item, or the end of the action, begins with a blank. -/
theorem exists_blank_next {items : List (List Char × Spelling)} {gap : List Char}
    (h : ∀ x ∈ items, IsGap x.1 ∧ x.2.Valid) (hg : IsGap gap) (r : List Char) :
    ∃ d r', items.flatMap Segment.itemChars ++ (gap ++ r) = d :: r' ∧ isBlank d = true := by
  cases items with
  | nil =>
    obtain ⟨d, gap, rfl⟩ := List.exists_cons_of_ne_nil hg.1
    exact ⟨d, gap ++ r, rfl, hg.2 d (List.mem_cons_self ..)⟩
  | cons x items =>
    obtain ⟨lead, s⟩ := x
    have hx := (h (lead, s) (List.mem_cons_self ..)).1
    obtain ⟨d, lead, rfl⟩ := List.exists_cons_of_ne_nil hx.1
    exact ⟨d, _, rfl, hx.2 d (List.mem_cons_self ..)⟩

/-- An action that was written is read item by item up to its end. -/
theorem readsItems_write {items : List (List Char × Spelling)} {gap : List Char}
    (h : ∀ x ∈ items, IsGap x.1 ∧ x.2.Valid) (hg : IsGap gap) (pos : Nat) (r : List Char) :
    ∃ b, ReadsItems pos (items.flatMap Segment.itemChars ++ (gap ++ (rightDelim ++ r))) b ∧
      b.comment = false ∧ b.trim = false ∧ b.rest = r ∧
      b.items.map Placed.item = items.map (·.2.item) := by
  induction items generalizing pos with
  | nil => exact ⟨_, @ReadsItems.close _ _ false r hg.leadsTo, rfl, rfl, rfl, rfl⟩
  | cons x items ih =>
    obtain ⟨lead, s⟩ := x
    obtain ⟨hlead, hs⟩ := h (lead, s) (List.mem_cons_self ..)
    have htail : ∀ x ∈ items, IsGap x.1 ∧ x.2.Valid := fun x hx => h x (List.mem_cons_of_mem _ hx)
    obtain ⟨d, r', hnext, hd⟩ := exists_blank_next htail hg (rightDelim ++ r)
    obtain ⟨c, cs, hchars, hread⟩ := s.reads hs hd r'
    obtain ⟨b, hb, hcomment, htrim, hrest, hitems⟩ := ih htail (pos + lead.length + cs.length + 1)
    rw [hnext] at hb
    have hdrop : (cs ++ d :: r').drop cs.length = d :: r' := List.drop_left
    have hall : (((lead, s) :: items).flatMap Segment.itemChars ++ (gap ++ (rightDelim ++ r))) =
        lead ++ c :: (cs ++ d :: r') := by
      rw [← hnext, List.flatMap_cons, Segment.itemChars, hchars]
      simp
    refine ⟨b.push ⟨s.item, pos + lead.length⟩, ?_, hcomment, htrim, hrest, ?_⟩
    · rw [hall]
      exact .item hlead.2 hread (by rwa [hdrop])
    · rw [List.map_cons, ← hitems]
      rfl

theorem lexemes_textPiece (pos : Nat) (text : List Char) :
    (tokens (textPiece pos text)).map Token.lexeme = if text = [] then [] else [.text text] := by
  cases text with
  | nil => rfl
  | cons a text => rfl

/-- A comment or an action that was written is read as such. -/
theorem Segment.reads {s : Segment} (h : s.Valid) (ht : ¬ s.IsText) (start : Nat)
    (r : List Char) : ∃ inner b, s.chars ++ r = leftDelim ++ inner ∧ trimsBefore inner = false ∧
      ReadsBody (start + 2) inner b ∧ b.trim = false ∧ b.rest = r ∧
      (tokens (b.pieces start)).map Token.lexeme = s.lexemes := by
  cases s with
  | text content => exact absurd trivial ht
  | comment body =>
    have hbody : ¬ ['*', '/'] <:+: body ++ ['*'] := by
      intro hi
      rcases pair_infix_append hi with hi | hi | ⟨-, hh⟩
      · exact h hi
      · exact absurd hi (by decide)
      · exact absurd hh (by decide)
    have hread : ReadsBody (start + 2)
        ('/' :: '*' :: (body ++ '*' :: '/' :: (closer false ++ r))) _ :=
      @ReadsBody.comment _ [] body [] false r nofun hbody ⟨nofun, nofun⟩
    refine ⟨_, _, ?_, ?_, hread, rfl, rfl, rfl⟩
    · simp [Segment.chars, closer]
    · rfl
  | action items gap =>
    obtain ⟨hitems, hgap⟩ := h
    obtain ⟨b, hread, hcomment, htrim, hrest, hmap⟩ := readsItems_write hitems hgap (start + 2) r
    obtain ⟨d, r', hnext, hd⟩ := exists_blank_next hitems hgap (rightDelim ++ r)
    refine ⟨_, b, ?_, ?_, .items hread, htrim, hrest, ?_⟩
    · simp [Segment.chars]
    · rw [hnext]
      unfold trimsBefore
      split
      · next he =>
        rw [(List.cons.inj he).1] at hd
        exact absurd hd (by decide)
      · rfl
    · simp only [Body.pieces, hcomment, Bool.false_eq_true, if_false, tokens, List.flatMap_cons,
        List.flatMap_nil, Piece.tokens, List.map_cons, List.map_append, List.map_map, List.map_nil,
        List.append_nil, Segment.lexemes]
      rw [show Token.lexeme ∘ Token.item = Lexeme.item ∘ Placed.item from rfl, ← List.map_map, hmap,
        List.map_map]
      rfl

/-- Segments that were written are read in their order, also after a text that they do not go on
with. -/
theorem readsPieces_write {segments : List Segment} (h : Writable segments) (pos : Nat)
    {text : List Char} (hn : ¬ leftDelim <:+: text)
    (hm : text ≠ [] → ∀ s ∈ segments.head?, ¬ s.IsText ∧ text.getLast? ≠ some '\x7b') :
    ∃ ps, ReadsPieces pos (text ++ segments.flatMap Segment.chars) ps ∧
      (tokens ps).map Token.lexeme =
        (if text = [] then [] else [.text text]) ++ segments.flatMap Segment.lexemes := by
  induction segments generalizing pos text with
  | nil =>
    rw [List.flatMap_nil, List.append_nil, List.flatMap_nil, List.append_nil]
    exact ⟨_, .last hn, lexemes_textPiece pos text⟩
  | cons s rest ih =>
    obtain ⟨hs, hnext, hrest⟩ := h
    by_cases ht : s.IsText
    · -- Two texts do not meet, so there is none before this one.
      have hnil : text = [] := Decidable.byContradiction fun hne => (hm hne s rfl).1 ht
      subst hnil
      cases s with
      | text content =>
        obtain ⟨ps, hps, hlex⟩ := ih hrest pos hs.2 fun _ => hnext trivial
        exact ⟨ps, hps, by rw [hlex, if_neg hs.1]; rfl⟩
      | comment body => exact absurd ht id
      | action items gap => exact absurd ht id
    · have hopen : ¬ leftDelim <:+: text ++ ['\x7b'] := by
        intro hi
        rcases pair_infix_append hi with hi | hi | ⟨hl, -⟩
        · exact hn hi
        · exact absurd hi (by decide)
        · have hne : text ≠ [] := by
            rintro rfl
            cases hl
          exact (hm hne s rfl).2 hl
      obtain ⟨inner, b, hchars, htrims, hbody, htrim, hr, hlex⟩ := Segment.reads hs ht
        (pos + text.length) (rest.flatMap Segment.chars)
      have hempty : ¬ leftDelim <:+: [] := by simp [leftDelim]
      obtain ⟨ps, hps, htail⟩ := ih hrest b.stop hempty (absurd rfl)
      have hdrops : Drops b.trim [] (rest.flatMap Segment.chars) :=
        ⟨by simp, by simp [htrim], fun _ => rfl⟩
      have hmore : ReadsPieces pos (text ++ (leftDelim ++ (dash false ++ inner))) _ :=
        .more hopen htrims hbody hr hdrops hps
      refine ⟨textPiece pos text ++ b.pieces (pos + text.length) ++ ps, ?_, ?_⟩
      · rw [List.flatMap_cons, hchars]
        exact hmore
      · rw [tokens_append, tokens_append, List.map_append, List.map_append, lexemes_textPiece, hlex,
          htail, List.flatMap_cons, List.append_assoc]
        rfl

/-- Cutting undoes writing: it gives back the texts and the items, and nothing for comments. -/
theorem pieces_write {segments : List Segment} (h : Writable segments) :
    ∃ ps, pieces (segments.flatMap Segment.chars) = .ok ps ∧
      (tokens ps).map Token.lexeme = segments.flatMap Segment.lexemes := by
  have hempty : ¬ leftDelim <:+: [] := by simp [leftDelim]
  obtain ⟨ps, hps, hlex⟩ := readsPieces_write h 0 hempty (absurd rfl)
  exact ⟨ps, pieces_eq_ok_iff.mpr hps, hlex⟩

/-- Delimiters in a comment, in a raw text and in a quoted one, and a sign that trims nothing. -/
theorem pieces_write_delimiters :
    Writable [.comment "\x7d\x7d*".toList, .text "- ".toList,
      .action [([' '], .int .minus 1 7), (['\n'], .field true [['a'], ['b', '1']]), ([' '], .pipe),
        ([' ', '\t'], .raw "\x7d\x7d\n\x7b\x7b".toList),
        ([' '], .quoted "\"\\\x7d\x7d".toList)] [' '],
      .text "\x7b".toList] ∧
    ∃ ps, pieces ("\x7b\x7b/*\x7d\x7d**/\x7d\x7d- \x7b\x7b -07\n$.a.b1 | \t".toList ++
        "\x60\x7d\x7d\n\x7b\x7b\x60 \"\\\"\\\\\x7d\x7d\" \x7d\x7d\x7b".toList) = .ok ps ∧
      (tokens ps).map Token.lexeme = [.text "- ".toList, .opening, .item (.constant (.int (-7))),
        .item (.field true ["a", "b1"]), .item .pipe,
        .item (.constant (.text "\x7d\x7d\n\x7b\x7b")),
        .item (.constant (.text "\"\\\x7d\x7d")), .closing, .text "\x7b".toList] := by
  have ha : IsName ['a'] := ⟨'a', [], rfl, by decide, nofun⟩
  have hb : IsName ['b', '1'] := ⟨'b', ['1'], rfl, by decide, List.all_eq_true.mp (by decide)⟩
  have hint : 1 + (natDigits 7).length ≤ digitLimit := by decide
  have hcomment : ¬ ['*', '/'] <:+: "\x7d\x7d*".toList := by decide
  have hraw : rawQuote ∉ "\x7d\x7d\n\x7b\x7b".toList := by decide
  have htext : ¬ leftDelim <:+: "- ".toList ∧ ¬ leftDelim <:+: "\x7b".toList := by decide
  have h : Writable [.comment "\x7d\x7d*".toList, .text "- ".toList,
      .action [([' '], .int .minus 1 7), (['\n'], .field true [['a'], ['b', '1']]), ([' '], .pipe),
        ([' ', '\t'], .raw "\x7d\x7d\n\x7b\x7b".toList),
        ([' '], .quoted "\"\\\x7d\x7d".toList)] [' '],
      .text "\x7b".toList] := by
    simpa [Writable, Segment.Valid, Segment.IsText, Segment.chars, IsGap, Spelling.Valid, isBlank]
      using ⟨hcomment, htext.1, ⟨hint, ⟨ha, hb⟩, by simpa using hraw⟩, htext.2⟩
  refine ⟨h, ?_⟩
  have hwrite := pieces_write h
  with_unfolding_all exact hwrite

end AlertRelay.Template
