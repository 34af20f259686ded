import AlertRelay.Template.Lexer

/-!
How far the readers of a source look. A reader that stops at a character does not see what comes
after it, so more text behind the stop leaves its answer alone.
-/

namespace AlertRelay.Template

open AlertRelay.Text

variable {p : Char → Bool} {c : Char} {cs ds : List Char}

theorem takeWhile_append_of_mem (hc : c ∈ cs) (hp : p c = false) :
    (cs ++ ds).takeWhile p = cs.takeWhile p := by
  induction cs with
  | nil => cases hc
  | cons a cs ih =>
    rw [List.cons_append, List.takeWhile_cons, List.takeWhile_cons]
    split
    · next ha =>
      have hne : c ≠ a := by
        rintro rfl
        simp [hp] at ha
      rw [ih ((List.mem_cons.mp hc).resolve_left hne)]
    · rfl

theorem dropWhile_append_of_mem (hc : c ∈ cs) (hp : p c = false) :
    (cs ++ ds).dropWhile p = cs.dropWhile p ++ ds := by
  induction cs with
  | nil => cases hc
  | cons a cs ih =>
    rw [List.cons_append, List.dropWhile_cons, List.dropWhile_cons]
    split
    · next ha =>
      have hne : c ≠ a := by
        rintro rfl
        simp [hp] at ha
      rw [ih ((List.mem_cons.mp hc).resolve_left hne)]
    · rfl

theorem mem_dropWhile (hc : c ∈ cs) (hp : p c = false) : c ∈ cs.dropWhile p := by
  rw [← List.takeWhile_append_dropWhile (p := p) (l := cs), List.mem_append] at hc
  refine hc.resolve_left fun h => ?_
  have := List.all_eq_true.mp (List.all_takeWhile (p := p) (l := cs)) c h
  simp [hp] at this

/-- A run of characters that `p` accepts ends where one is not accepted. -/
theorem takeWhile_append_cons (h : ∀ a ∈ cs, p a = true) (hp : p c = false) :
    (cs ++ c :: ds).takeWhile p = cs := by
  rw [List.takeWhile_append_of_pos h, List.takeWhile_cons_of_neg (by simp [hp]), List.append_nil]

theorem dropWhile_append_cons (h : ∀ a ∈ cs, p a = true) (hp : p c = false) :
    (cs ++ c :: ds).dropWhile p = c :: ds := by
  rw [List.dropWhile_append_of_pos h, List.dropWhile_cons_of_neg (by simp [hp])]

theorem all_of_mem_takeWhile (hc : c ∈ cs.takeWhile p) : p c = true :=
  List.all_eq_true.mp List.all_takeWhile c hc

theorem drop_takeWhile (p : Char → Bool) (cs : List Char) :
    cs.drop (cs.takeWhile p).length = cs.dropWhile p := by
  have := List.takeWhile_append_dropWhile (p := p) (l := cs)
  conv => lhs; arg 2; rw [← this]
  exact List.drop_left

theorem head_dropWhile (h : cs.dropWhile p = c :: ds) : p c = false := by
  have := List.head?_dropWhile_not p cs
  rw [h] at this
  simpa using this

/-!
Words at the head of a text, and the first place of a word in it.
-/

variable {word : List Char}

theorem startsWith_iff : startsWith word cs = true ↔ ∃ r, cs = word ++ r := by
  unfold startsWith
  rw [List.isPrefixOf_iff_prefix]
  exact ⟨fun ⟨r, hr⟩ => ⟨r, hr.symm⟩, fun ⟨r, hr⟩ => ⟨r, hr.symm⟩⟩

theorem before?_eq_some {content : List Char} (h : before? word cs = some content) :
    ∃ r, cs = content ++ word ++ r := by
  induction cs generalizing content with
  | nil =>
    unfold before? at h
    split at h
    · next hw =>
      cases h
      exact ⟨[], by simpa using hw⟩
    · cases h
  | cons c cs ih =>
    unfold before? at h
    split at h
    · next hs =>
      cases h
      exact startsWith_iff.mp hs
    · obtain ⟨t, ht, rfl⟩ := Option.map_eq_some_iff.mp h
      obtain ⟨r, hr⟩ := ih ht
      exact ⟨r, by rw [hr]; rfl⟩

theorem before?_eq_none (h : before? word cs = none) : ¬ word <:+: cs := by
  induction cs with
  | nil =>
    unfold before? at h
    split at h
    · cases h
    · next hw => simpa using hw
  | cons c cs ih =>
    unfold before? at h
    split at h
    · cases h
    · next hs =>
      rw [List.infix_cons_iff, not_or]
      exact ⟨fun hp => hs (List.isPrefixOf_iff_prefix.mpr hp), ih (Option.map_eq_none_iff.mp h)⟩

/-- The text before the first place of a word, together with all but the last of its characters,
does not hold the word. -/
theorem not_infix_of_before? {content : List Char} (h : before? word cs = some content)
    (hne : word ≠ []) : ¬ word <:+: content ++ word.dropLast := by
  induction cs generalizing content with
  | nil =>
    unfold before? at h
    split at h
    · next hw => exact absurd (List.isEmpty_iff.mp hw) hne
    · cases h
  | cons c cs ih =>
    unfold before? at h
    split at h
    · cases h
      intro hi
      have hl := hi.length_le
      have := List.length_pos_iff.mpr hne
      simp only [List.nil_append, List.length_dropLast] at hl
      omega
    · next hs =>
      obtain ⟨t, ht, rfl⟩ := Option.map_eq_some_iff.mp h
      rw [List.cons_append, List.infix_cons_iff, not_or]
      refine ⟨fun hp => hs ?_, ih ht⟩
      -- If the word began here, the whole text would begin with it.
      obtain ⟨r, hr⟩ := before?_eq_some ht
      refine List.isPrefixOf_iff_prefix.mpr (hp.trans ?_)
      rw [hr, List.append_assoc, ← List.cons_append, ← List.cons_append]
      exact (List.prefix_append_right_inj _).mpr
        ((List.dropLast_prefix word).trans (List.prefix_append word r))

/-- A word stands for the first time where nothing before it, nor any part of it with what is
before it, is the word. -/
theorem before?_of_not_infix {content r : List Char} (hne : word ≠ [])
    (h : ¬ word <:+: content ++ word.dropLast) :
    before? word (content ++ word ++ r) = some content := by
  induction content with
  | nil =>
    have hs : startsWith word (word ++ r) = true := startsWith_iff.mpr ⟨r, rfl⟩
    rw [List.nil_append]
    match hw : word ++ r with
    | [] => exact absurd (List.append_eq_nil_iff.mp hw).1 hne
    | a :: as =>
      rw [hw] at hs
      rw [before?, if_pos hs]
  | cons c content ih =>
    rw [List.cons_append, List.infix_cons_iff, not_or] at h
    have hs : startsWith word (c :: (content ++ word ++ r)) ≠ true := by
      intro hs
      refine h.1 ?_
      -- If the word began here, it would end before the last character of the one that is there.
      have hp := List.isPrefixOf_iff_prefix.mp hs
      have hshort : c :: (content ++ word.dropLast) <+: c :: (content ++ word ++ r) := by
        rw [← List.cons_append, ← List.cons_append, ← List.cons_append, List.append_assoc]
        exact (List.prefix_append_right_inj _).mpr
          ((List.dropLast_prefix word).trans (List.prefix_append word r))
      refine List.prefix_of_prefix_length_le hp hshort ?_
      simp only [List.length_cons, List.length_append, List.length_dropLast]
      omega
    rw [List.cons_append, List.cons_append, before?, if_neg hs, ih h.2]
    rfl

/-- Two characters that follow each other stand on one side of a seam or meet at it. -/
theorem pair_infix_append {a b : Char} {xs ys : List Char} (h : [a, b] <:+: xs ++ ys) :
    [a, b] <:+: xs ∨ [a, b] <:+: ys ∨ xs.getLast? = some a ∧ ys.head? = some b := by
  induction xs with
  | nil => exact .inr (.inl h)
  | cons x xs ih =>
    rw [List.cons_append, List.infix_cons_iff, List.cons_prefix_cons] at h
    rcases h with ⟨rfl, hp⟩ | hi
    · cases xs with
      | nil =>
        cases ys with
        | nil => simp at hp
        | cons y ys =>
          obtain ⟨rfl, -⟩ := List.cons_prefix_cons.mp hp
          exact .inr (.inr ⟨rfl, rfl⟩)
      | cons c xs =>
        obtain ⟨rfl, -⟩ := List.cons_prefix_cons.mp hp
        exact .inl ⟨[], xs, rfl⟩
    · rcases ih hi with h | h | ⟨hl, hh⟩
      · exact .inl (h.trans (List.suffix_cons ..).isInfix)
      · exact .inr (.inl h)
      · exact .inr (.inr ⟨by rw [List.getLast?_cons, hl]; rfl, hh⟩)

end AlertRelay.Template
