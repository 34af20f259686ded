import AlertRelay.Proofs.Template.Fitting
import AlertRelay.Proofs.Text.Blank

/-!
Widths. What fills an integer or a text up to its width changes neither: it stands on one side of
it, or between the sign and the digits, and the integer can be read off the text again.
-/

namespace AlertRelay.Template

open AlertRelay.Number AlertRelay.Text

/-- The integer that decimal digits spell, with a sign before them or without one. -/
def spelled? (cs : List Char) : Option Int :=
  let (negative, ds) := Double.takeSign cs
  if ds.isEmpty || !ds.all Char.isDigit then none
  else some (if negative then -(digitsValue ds : Int) else digitsValue ds)

namespace Directive

variable {d : Directive} {n : Int} {k : Nat} {sign digits t : List Char}

/-- An integer in a text: `bare` is its text without a width. -/
structure LaysInt (d : Directive) (n : Int) (bare t : List Char) : Prop where
  length : t.length = max (digitsValue d.width) bare.length
  parts : ∃ sign, d.IsSign n sign ∧ bare = sign ++ natDigits n.natAbs ∧
    d.IsFilled (digitsValue d.width - bare.length) sign (natDigits n.natAbs) t
  value : spelled? (trimBy (· == ' ') t) = some n

/-- The format that consists of a directive gives a text for an argument. -/
def Gives (d : Directive) (v : Value) (t : List Char) : Prop :=
  Builtin.printf.apply [.text (String.ofList d.chars), v] = .ok (.text (String.ofList t))

def withoutWidth (d : Directive) : Directive := { d with width := [] }

theorem gives_of_lay {v : Value} (hform : d.IsForm) (hgreedy : d.IsGreedy) (hverb : d.verb ≠ '%')
    (h : d.lay v = .ok t) : d.Gives v t := by
  have hcuts : Cuts d.chars [.directive d] := by
    simpa using Cuts.directive hform hgreedy .nil
  have hfill : fill [.directive d] [v] = .ok t := by
    simp [fill, hverb, h, extraText, bind, Except.bind, pure, Except.pure]
  rw [Gives, Builtin.apply, format, String.toList_ofList, chunks_of_cuts hcuts, hfill]

/-!
Integers.
-/

theorem IsFilled.length_eq (h : d.IsFilled k sign digits t) :
    t.length = k + (sign ++ digits).length := by
  cases h with
  | behind => simp only [List.length_append, List.length_replicate]; omega
  | between => simp only [List.length_append, List.length_replicate]; omega
  | before => simp only [List.length_append, List.length_replicate]

theorem IsFilled.eq_append (h : d.IsFilled 0 sign digits t) : t = sign ++ digits := by
  cases h with
  | behind | between | before => simp

theorem spelled?_digits {mark : List Char} (hmark : mark = [] ∨ mark = ['+'])
    (hne : digits ≠ []) (hdigits : ∀ c ∈ digits, c.isDigit = true) :
    spelled? (mark ++ digits) = some (digitsValue digits : Int) := by
  obtain ⟨c, ds, rfl⟩ := List.exists_cons_of_ne_nil hne
  have hsign : Double.takeSign (mark ++ c :: ds) = (false, c :: ds) := by
    obtain rfl | rfl := hmark
    · exact takeSign_of_isDigit (hdigits c List.mem_cons_self) ds
    · rfl
  simpa [spelled?, hsign] using hdigits

theorem spelled?_minus (hne : digits ≠ []) (hdigits : ∀ c ∈ digits, c.isDigit = true) :
    spelled? ('-' :: digits) = some (-(digitsValue digits : Int)) := by
  simpa [spelled?, Double.takeSign, hne] using hdigits

/-- A sign is a mark that counts, or a space that is trimmed. -/
theorem IsSign.exists_mark (h : d.IsSign n sign) : ∃ blanks mark, sign = blanks ++ mark ∧
    (∀ c ∈ blanks, c = ' ') ∧ ' ' ∉ mark ∧
      ∀ ds ≠ [], (∀ c ∈ ds, c.isDigit = true) → digitsValue ds = n.natAbs →
        spelled? (mark ++ ds) = some n := by
  cases h with
  | minus hn =>
    refine ⟨[], ['-'], rfl, by simp, by decide, fun ds hne hds hvalue => ?_⟩
    exact (spelled?_minus hne hds).trans (congrArg some (by omega))
  | plus hn =>
    refine ⟨[], ['+'], rfl, by simp, by decide, fun ds hne hds hvalue => ?_⟩
    exact (spelled?_digits (.inr rfl) hne hds).trans (congrArg some (by omega))
  | space hn =>
    refine ⟨[' '], [], rfl, by simp, by simp, fun ds hne hds hvalue => ?_⟩
    exact (spelled?_digits (.inl rfl) hne hds).trans (congrArg some (by omega))
  | none hn =>
    refine ⟨[], [], rfl, by simp, by simp, fun ds hne hds hvalue => ?_⟩
    exact (spelled?_digits (.inl rfl) hne hds).trans (congrArg some (by omega))

/-- Spaces around a sign and digits do not count, and neither do zeros before the digits. -/
theorem IsSign.spelled?_surrounded (h : d.IsSign n sign) {ds : List Char} (hne : ds ≠ [])
    (hds : ∀ c ∈ ds, c.isDigit = true) (hvalue : digitsValue ds = n.natAbs) (i j : Nat) :
    spelled? (trimBy (· == ' ')
      (List.replicate i ' ' ++ (sign ++ ds ++ List.replicate j ' '))) = some n := by
  obtain ⟨blanks, mark, rfl, hblanks, hmark, hspelled⟩ := h.exists_mark
  have hfront : ∀ c ∈ List.replicate i ' ' ++ blanks, (c == ' ') = true := by
    simp only [List.mem_append, List.mem_replicate, beq_iff_eq]
    rintro c (⟨-, rfl⟩ | hc)
    · rfl
    · exact hblanks c hc
  have hinner : ∀ c ∈ mark ++ ds, (c == ' ') = false := by
    intro c hc
    rw [beq_eq_false_iff_ne]
    rintro rfl
    cases List.mem_append.mp hc with
    | inl hc => exact hmark hc
    | inr hc => exact absurd (hds _ hc) (by decide)
  have hback : ∀ c ∈ List.replicate j ' ', (c == ' ') = true := by simp
  have htrim := trimBy_surrounded hfront hinner hback (by simp [hne])
  rw [← hspelled ds hne hds hvalue, ← htrim]
  simp

theorem IsFilled.spelled? (hsign : d.IsSign n sign)
    (h : d.IsFilled k sign (natDigits n.natAbs) t) :
    spelled? (trimBy (· == ' ') t) = some n := by
  have hvalue := digitsValue_natDigits n.natAbs
  have hne := natDigits_ne_nil n.natAbs
  cases h with
  | behind =>
    have hread := hsign.spelled?_surrounded hne isDigit_natDigits hvalue 0 k
    simpa using hread
  | between =>
    obtain ⟨c, ds, heq, hdigits⟩ := exists_isDigit_cons k n.natAbs
    have hzeros := digitsValue_zeros k n.natAbs
    rw [heq] at hzeros
    have hread := hsign.spelled?_surrounded (List.cons_ne_nil c ds) hdigits hzeros 0 0
    rw [List.append_assoc, heq]
    simpa using hread
  | before =>
    have hread := hsign.spelled?_surrounded hne isDigit_natDigits hvalue k 0
    simpa using hread

theorem gives_padNumber (hform : d.IsForm) (hgreedy : d.IsGreedy) (hverb : d.verb = 'd')
    (hwidth : digitsValue d.width ≤ countLimit) (hn : (natDigits n.natAbs).length ≤ digitLimit) :
    d.Gives (.int n)
      (d.padNumber (digitsValue d.width) (decide (n < 0)) (natDigits n.natAbs)) := by
  have hshort : (Value.int n).Short := by
    rw [Value.short_iff]
    simpa [Value.HoldsLongInteger, Value.integers] using hn
  apply gives_of_lay hform hgreedy (by simp [hverb])
  rw [lay_whole hverb, layInt_of_short hwidth hshort]

theorem IsForm.withoutWidth (h : d.IsForm) : d.withoutWidth.IsForm :=
  ⟨h.flags, nofun, h.precision, h.verb⟩

theorem laysInt_padNumber (d : Directive) (n : Int) :
    d.LaysInt n (d.withoutWidth.padNumber 0 (decide (n < 0)) (natDigits n.natAbs))
      (d.padNumber (digitsValue d.width) (decide (n < 0)) (natDigits n.natAbs)) := by
  have hsame : d.withoutWidth.signText = d.signText := rfl
  have hbare := isFilled_padNumber d.withoutWidth 0 (decide (n < 0)) (natDigits n.natAbs)
  have hfilled :=
    isFilled_padNumber d (digitsValue d.width) (decide (n < 0)) (natDigits n.natAbs)
  have hsign := isSign_signText d n
  rw [Nat.zero_sub, hsame] at hbare
  rw [hbare.eq_append]
  refine ⟨?_, ⟨_, hsign, rfl, hfilled⟩, hfilled.spelled? hsign⟩
  rw [hfilled.length_eq]
  omega

/-!
Texts.
-/

theorem gives_padText (hform : d.IsForm) (hgreedy : d.IsGreedy)
    (hverb : d.verb = 's' ∨ d.verb = 'v') (hwidth : digitsValue d.width ≤ countLimit)
    (hprecision : d.precision = none) (s : String) :
    d.Gives (.text s) (d.padText (digitsValue d.width) s.toList) := by
  have hlay : d.lay (.text s) = d.layText s := by
    cases hverb with
    | inl hverb => exact lay_text hverb
    | inr hverb => exact lay_value hverb
  apply gives_of_lay hform hgreedy
  · rintro hpercent
    simp [hpercent] at hverb
  · rw [hlay, layText_of_le hwidth (by simp [hprecision]) (by simp [hprecision]), hprecision]

end Directive

/-- A width changes nothing but the length of what is written. An integer keeps its sign in front
of all digits and can be read off the text; a text is kept as it is. -/
theorem printf_padded {d : Directive} (hform : d.IsForm) (hgreedy : d.IsGreedy)
    (hwidth : digitsValue d.width ≤ Directive.countLimit) :
    (d.verb = 'd' → ∀ n : Int, (natDigits n.natAbs).length ≤ digitLimit →
      ∃ bare t, d.withoutWidth.Gives (.int n) bare ∧ d.Gives (.int n) t ∧ d.LaysInt n bare t) ∧
    (d.verb = 's' ∨ d.verb = 'v' → d.precision = none →
      ∀ s : String, ∃ t, d.Gives (.text s) t ∧ d.LaysText s.toList t) := by
  constructor
  · intro hverb n hn
    have hnone : digitsValue d.withoutWidth.width ≤ Directive.countLimit := Nat.zero_le _
    have hbare := Directive.gives_padNumber hform.withoutWidth nofun hverb hnone hn
    have hfull := Directive.gives_padNumber hform hgreedy hverb hwidth hn
    exact ⟨_, _, hbare, hfull, d.laysInt_padNumber n⟩
  · intro hverb hprecision s
    exact ⟨_, Directive.gives_padText hform hgreedy hverb hwidth hprecision s,
      d.laysText_padText s.toList⟩

/-- Zeros stand behind the sign, and a text takes no zeros. -/
theorem printf_padded_zeros :
    (∃ bare t,
      (Directive.withoutWidth ⟨[' ', '0', '+'], ['8'], none, 'd'⟩).Gives (.int (-42)) bare ∧
      Directive.Gives ⟨[' ', '0', '+'], ['8'], none, 'd'⟩ (.int (-42)) t ∧
      Directive.LaysInt ⟨[' ', '0', '+'], ['8'], none, 'd'⟩ (-42) bare t) ∧
    (∃ t, Directive.Gives ⟨['0', '-'], ['5'], none, 's'⟩ (.text "cpu") t ∧
      Directive.LaysText ⟨['0', '-'], ['5'], none, 's'⟩ "cpu".toList t) ∧
    Directive.Gives ⟨[' ', '0', '+'], ['8'], none, 'd'⟩ (.int (-42)) "-0000042".toList ∧
    Directive.Gives ⟨['0', '-'], ['5'], none, 's'⟩ (.text "cpu") "cpu  ".toList := by
  have hint : Directive.IsForm ⟨[' ', '0', '+'], ['8'], none, 'd'⟩ :=
    ⟨by simp [isFlag], List.forall_mem_singleton.mpr rfl, by simp, rfl⟩
  have htext : Directive.IsForm ⟨['0', '-'], ['5'], none, 's'⟩ :=
    ⟨by simp [isFlag], List.forall_mem_singleton.mpr rfl, by simp, rfl⟩
  have hint' : Directive.IsGreedy ⟨[' ', '0', '+'], ['8'], none, 'd'⟩ := by
    simp [Directive.IsGreedy, isFlag]
  have htext' : Directive.IsGreedy ⟨['0', '-'], ['5'], none, 's'⟩ := by
    simp [Directive.IsGreedy, isFlag]
  exact ⟨(printf_padded hint hint' (by decide)).1 rfl (-42) (by decide),
    (printf_padded htext htext' (by decide)).2 (.inl rfl) rfl "cpu",
    Directive.gives_padNumber hint hint' rfl (by decide) (by decide),
    Directive.gives_padText htext htext' (.inl rfl) (by decide) rfl "cpu"⟩

end AlertRelay.Template
