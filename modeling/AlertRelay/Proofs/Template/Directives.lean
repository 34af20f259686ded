import AlertRelay.Proofs.Template.Spelling
import AlertRelay.Proofs.Text.Split
import AlertRelay.Template.Directive

/-!
The directives of a format. They are told from the rest of it by their form alone: a format is cut
at the leftmost of them, then at the leftmost behind that one, and so on.
-/

namespace AlertRelay.Template

open AlertRelay.Text

namespace Directive

/-- The point and the digits of a precision. -/
def pointed : Option (List Char) → List Char
  | none => []
  | some ds => '.' :: ds

/-- A directive as it is written. -/
def chars (d : Directive) : List Char :=
  '%' :: (d.flags ++ (d.width ++ (pointed d.precision ++ [d.verb])))

/-- What the parts of a directive may consist of. -/
structure IsForm (d : Directive) : Prop where
  flags : ∀ c ∈ d.flags, isFlag c = true
  width : ∀ c ∈ d.width, isDigit c = true
  precision : ∀ ds ∈ d.precision, ∀ c ∈ ds, isDigit c = true
  verb : isVerb d.verb = true

/-- All flags there are count as flags. As the zero is one of them, no width begins with it. -/
def IsGreedy (d : Directive) : Prop := ∀ c ∈ d.width.head?, isFlag c = false

end Directive

theorem not_isFlag_of_isVerb {c : Char} (h : isVerb c = true) : isFlag c = false := by
  rw [← Bool.not_eq_true]
  intro hf
  have hall : ['-', '+', ' ', '0', '#'].all (!isVerb ·) = true := by decide
  have hmem : c ∈ ['-', '+', ' ', '0', '#'] := by simpa [isFlag, or_assoc] using hf
  have hnot := List.all_eq_true.mp hall c hmem
  rw [h] at hnot
  cases hnot

theorem not_isDigit_of_isVerb {c : Char} (h : isVerb c = true) : isDigit c = false := by
  rw [isVerb, Bool.or_eq_true, beq_iff_eq] at h
  rcases h with h | rfl
  · exact isDigit_of_isNameStart (by rw [isNameStart, h, Bool.true_or])
  · decide

theorem ne_point_of_isVerb {c : Char} (h : isVerb c = true) : c ≠ '.' := by
  rintro rfl
  exact absurd h (by decide)

namespace Directive

variable {d : Directive} {cs rest : List Char}

theorem length_chars (d : Directive) : d.chars.length = d.length + 1 := by
  unfold chars length pointed
  cases d.precision with
  | none => simp only [List.length_cons, List.length_append, List.length_nil]; omega
  | some ds => simp only [List.length_cons, List.length_append, List.length_nil]; omega

theorem drop_length {cs rest : List Char} (h : '%' :: cs = d.chars ++ rest) :
    cs.drop d.length = rest := by
  have hdrop : ('%' :: cs).drop (d.length + 1) = rest := by
    rw [h, ← length_chars, List.drop_left]
  simpa using hdrop

/-- What can follow the width is no digit. -/
theorem IsForm.not_isDigit_head (h : d.IsForm) (rest : List Char) :
    ∀ c ∈ (pointed d.precision ++ d.verb :: rest).head?, isDigit c = false := by
  cases d.precision with
  | none =>
    rintro c ⟨⟩
    exact not_isDigit_of_isVerb h.verb
  | some ds =>
    rintro c ⟨⟩
    decide

/-- What can follow the flags is no flag. -/
theorem IsForm.not_isFlag_head (h : d.IsForm) (hg : d.IsGreedy) (rest : List Char) :
    ∀ c ∈ (d.width ++ (pointed d.precision ++ d.verb :: rest)).head?, isFlag c = false := by
  intro c hc
  cases hw : d.width with
  | cons a w =>
    rw [hw] at hc
    cases hc
    exact hg c (by rw [hw]; rfl)
  | nil =>
    rw [hw] at hc
    cases hp : d.precision with
    | none =>
      rw [hp] at hc
      cases hc
      exact not_isFlag_of_isVerb h.verb
    | some ds =>
      rw [hp] at hc
      cases hc
      decide

/-- A point with the digits behind it, if there is one, and what comes after. -/
def pointAt : List Char → Option (List Char) × List Char
  | '.' :: r => (some (r.takeWhile isDigit), r.dropWhile isDigit)
  | r => (none, r)

theorem pointAt_of_ne {c : Char} (h : c ≠ '.') (r : List Char) :
    pointAt (c :: r) = (none, c :: r) := by
  unfold pointAt
  split
  · next he => exact absurd (List.cons.inj he).1 h
  · rfl

theorem IsForm.pointAt (h : d.IsForm) (rest : List Char) :
    pointAt (pointed d.precision ++ d.verb :: rest) = (d.precision, d.verb :: rest) := by
  cases hp : d.precision with
  | none => exact pointAt_of_ne (ne_point_of_isVerb h.verb) rest
  | some ds =>
    have hdigits : ∀ c ∈ ds, isDigit c = true := h.precision ds hp
    have hverb : isDigit d.verb = false := not_isDigit_of_isVerb h.verb
    simp only [pointed, List.cons_append, Directive.pointAt, takeWhile_append_cons hdigits hverb,
      dropWhile_append_cons hdigits hverb]

theorem pointAt_spec (cs : List Char) : pointed (pointAt cs).1 ++ (pointAt cs).2 = cs ∧
    ∀ ds ∈ (pointAt cs).1, ∀ c ∈ ds, isDigit c = true := by
  unfold pointAt
  split
  · next r =>
    refine ⟨?_, fun ds hds c hc => ?_⟩
    · rw [pointed, List.cons_append, List.takeWhile_append_dropWhile]
    · cases hds
      exact all_of_mem_takeWhile hc
  · exact ⟨rfl, fun ds hds => absurd hds (Option.not_mem_none ds)⟩

theorem at?_eq (cs : List Char) : at? cs =
    match (pointAt ((cs.dropWhile isFlag).dropWhile isDigit)).2 with
    | verb :: _ =>
      if isVerb verb then
        some ⟨cs.takeWhile isFlag, (cs.dropWhile isFlag).takeWhile isDigit,
          (pointAt ((cs.dropWhile isFlag).dropWhile isDigit)).1, verb⟩
      else none
    | [] => none := rfl

theorem at?_of_form (h : d.IsForm) (hg : d.IsGreedy) (rest : List Char) :
    at? (d.flags ++ (d.width ++ (pointed d.precision ++ d.verb :: rest))) = some d := by
  have hflags := h.not_isFlag_head hg rest
  have hwidth := h.not_isDigit_head rest
  rw [at?_eq, takeWhile_append_stop h.flags hflags, dropWhile_append_stop h.flags hflags,
    takeWhile_append_stop h.width hwidth, dropWhile_append_stop h.width hwidth, h.pointAt]
  dsimp only
  rw [if_pos h.verb]

theorem form_of_at? (h : at? cs = some d) :
    d.IsForm ∧ d.IsGreedy ∧ ∃ rest, '%' :: cs = d.chars ++ rest := by
  have hflags := List.takeWhile_append_dropWhile (p := isFlag) (l := cs)
  have hwidth := List.takeWhile_append_dropWhile (p := isDigit) (l := cs.dropWhile isFlag)
  have hgreedy : ∀ c ∈ ((cs.dropWhile isFlag).takeWhile isDigit).head?, isFlag c = false := by
    intro c hc
    cases hd : cs.dropWhile isFlag with
    | nil =>
      rw [hd] at hc
      cases hc
    | cons a r =>
      rw [hd, List.takeWhile_cons] at hc
      split at hc
      · cases hc
        exact head_dropWhile hd
      · cases hc
  obtain ⟨hpoint, hdigits⟩ := pointAt_spec ((cs.dropWhile isFlag).dropWhile isDigit)
  rw [at?_eq] at h
  split at h
  · next verb r he =>
    split at h
    · next hv =>
      cases h
      refine ⟨⟨fun c hc => all_of_mem_takeWhile hc, fun c hc => all_of_mem_takeWhile hc, hdigits,
        hv⟩, hgreedy, r, ?_⟩
      simp only [chars, List.cons_append, List.append_assoc, List.nil_append]
      rw [← he, hpoint, hwidth, hflags]
    · cases h
  · cases h

/-- A directive can be read with all its flags as flags. -/
theorem IsForm.exists_greedy (h : d.IsForm) :
    ∃ e : Directive, e.IsForm ∧ e.IsGreedy ∧ e.chars = d.chars := by
  have hwidth := List.takeWhile_append_dropWhile (p := isFlag) (l := d.width)
  refine ⟨⟨d.flags ++ d.width.takeWhile isFlag, d.width.dropWhile isFlag, d.precision, d.verb⟩,
    ⟨fun c hc => ?_, fun c hc => ?_, h.precision, h.verb⟩, fun c hc => ?_, ?_⟩
  · rcases List.mem_append.mp hc with hc | hc
    · exact h.flags c hc
    · exact all_of_mem_takeWhile hc
  · exact h.width c ((List.dropWhile_suffix isFlag).mem hc)
  · obtain ⟨w, hw⟩ := List.head?_eq_some_iff.mp hc
    exact head_dropWhile hw
  · simp only [chars, List.append_assoc]
    rw [← List.append_assoc (d.width.takeWhile isFlag), hwidth]

/-- A directive is found exactly where one is written, with all its flags as flags. -/
theorem at?_eq_some_iff : at? cs = some d ↔
    d.IsForm ∧ d.IsGreedy ∧ ∃ rest, '%' :: cs = d.chars ++ rest := by
  refine ⟨form_of_at?, fun ⟨h, hg, rest, hr⟩ => ?_⟩
  have hcs : cs = d.flags ++ (d.width ++ (pointed d.precision ++ d.verb :: rest)) := by
    simpa [chars] using hr
  rw [hcs]
  exact at?_of_form h hg rest

/-- No directive is found only where none is written, however one takes its zeros. -/
theorem not_form_of_at?_eq_none (hn : at? cs = none) (h : d.IsForm) (rest : List Char) :
    '%' :: cs ≠ d.chars ++ rest := by
  intro hr
  obtain ⟨e, he, hg, hchars⟩ := h.exists_greedy
  rw [← hchars] at hr
  rw [at?_eq_some_iff.mpr ⟨he, hg, rest, hr⟩] at hn
  cases hn

end Directive

/-- A format, cut at the leftmost directive, at the leftmost one behind it, and so on: a character
is copied only where no directive begins. -/
inductive Cuts : List Char → List Chunk → Prop
  | nil : Cuts [] []
  | literal {c rest xs} : (∀ (d : Directive) r, d.IsForm → c :: rest ≠ d.chars ++ r) →
      Cuts rest xs → Cuts (c :: rest) (.literal c :: xs)
  | directive {d rest xs} : d.IsForm → d.IsGreedy → Cuts rest xs →
      Cuts (d.chars ++ rest) (.directive d :: xs)

theorem chunks_of_cuts {cs : List Char} {xs : List Chunk} (h : Cuts cs xs) : chunks cs = xs := by
  induction h with
  | nil => rw [chunks]
  | @literal c rest xs hn _ ih =>
    rw [chunks]
    split
    · next hc =>
      rw [beq_iff_eq] at hc
      subst hc
      split
      · next d hd =>
        obtain ⟨hform, -, r, hr⟩ := Directive.form_of_at? hd
        exact absurd hr (hn d r hform)
      · rw [ih]
    · rw [ih]
  | @directive d rest xs hform hgreedy _ ih =>
    have hat : Directive.at? (d.chars ++ rest).tail = some d :=
      Directive.at?_eq_some_iff.mpr ⟨hform, hgreedy, rest, rfl⟩
    have hdrop : (d.chars ++ rest).tail.drop d.length = rest := Directive.drop_length rfl
    have hcons : d.chars ++ rest = '%' :: (d.chars ++ rest).tail := rfl
    rw [hcons, chunks, if_pos (by rfl), hat]
    dsimp only
    rw [hdrop, ih]

theorem cuts_chunks (cs : List Char) : Cuts cs (chunks cs) := by
  fun_induction chunks cs with
  | case1 => exact .nil
  | case2 c r hc d hd ih =>
    rw [beq_iff_eq] at hc
    subst hc
    obtain ⟨hform, hgreedy, rest, hrest⟩ := Directive.form_of_at? hd
    rw [Directive.drop_length hrest] at ih
    rw [hrest, Directive.drop_length hrest]
    exact .directive hform hgreedy ih
  | case3 c r hc hd ih =>
    rw [beq_iff_eq] at hc
    subst hc
    exact .literal (fun d rest hform => Directive.not_form_of_at?_eq_none hd hform rest) ih
  | case4 c r hc ih =>
    refine .literal (fun d rest _ hr => hc ?_) ih
    rw [beq_iff_eq]
    exact (List.cons.inj hr).1

/-- Formats are cut at their leftmost directives, and in no other way. -/
theorem chunks_eq_iff {cs : List Char} {xs : List Chunk} : chunks cs = xs ↔ Cuts cs xs :=
  ⟨fun h => h ▸ cuts_chunks cs, chunks_of_cuts⟩

end AlertRelay.Template
