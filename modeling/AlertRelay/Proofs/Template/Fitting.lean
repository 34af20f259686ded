import AlertRelay.Proofs.Number.Range
import AlertRelay.Proofs.Template.Filling
import AlertRelay.Proofs.Value.Integers

/-!
Arguments that fit their directives. They are laid out whatever the flags, the width and the
precision are, but for a point without digits behind it: a format may have one, and then nothing is
written.
-/

namespace AlertRelay.Template

open AlertRelay.Number AlertRelay.Text

/-- The arguments that a verb is meant for. -/
inductive Fits (c : Char) : Value → Prop
  | any {v} : c = 'v' ∨ c = 'q' → ¬ v.HoldsLongInteger → Fits c v
  | text {s} : c = 's' → Fits c (.text s)
  | whole {n} : c = 'd' → ¬ (Value.int n).HoldsLongInteger → Fits c (.int n)
  | rounded {n} : c ∈ ['f', 'e', 'g'] → n.natAbs < Double.rangeBound → Fits c (.int n)
  | fraction {x} : c ∈ ['f', 'e', 'g'] → Fits c (.float x)

namespace Directive

/-- The width and the precision, where it counts, are not too great to be written. -/
structure InLimits (d : Directive) : Prop where
  width : digitsValue d.width ≤ countLimit
  cut : d.verb = 'v' ∨ d.verb = 's' → ∀ ds ∈ d.precision, digitsValue ds ≤ countLimit
  places : d.verb ∈ ['f', 'e', 'g'] → ∀ ds ∈ d.precision, digitsValue ds ≤ precisionLimit

/-- A point without digits behind it, before a verb for which the precision counts. -/
def IsBare (d : Directive) : Prop := d.precision = some [] ∧ d.verb ∈ ['v', 's', 'f', 'e', 'g']

variable {d : Directive} {v : Value}

theorem count_of_le {ds : List Char} (h : digitsValue ds ≤ countLimit) :
    count ds = .ok (digitsValue ds) :=
  count_eq_ok_iff.mpr ⟨h, rfl⟩

theorem precision?_of_bare (h : d.precision = some []) :
    d.precision? = .error .missingPrecision := by
  unfold precision?
  rw [h]

theorem precision?_of_le (hne : d.precision ≠ some [])
    (h : ∀ ds ∈ d.precision, digitsValue ds ≤ countLimit) :
    d.precision? = .ok (d.precision.map digitsValue) := by
  unfold precision?
  split
  · next hp => rw [hp]; rfl
  · next hp => exact absurd hp hne
  · next ds _ hp =>
    rw [count_of_le (h ds hp), hp]
    rfl

section Laying

variable (hwidth : digitsValue d.width ≤ countLimit)
include hwidth

theorem layText_of_bare (h : d.precision = some []) (s : String) :
    d.layText s = .error .missingPrecision := by
  rw [layText, width?, count_of_le hwidth, precision?_of_bare h]
  rfl

theorem layText_of_le (hne : d.precision ≠ some [])
    (h : ∀ ds ∈ d.precision, digitsValue ds ≤ countLimit) (s : String) :
    d.layText s = .ok (d.padText (digitsValue d.width)
      (match d.precision with
        | none => s.toList
        | some ds => s.toList.take (digitsValue ds))) := by
  rw [layText, width?, count_of_le hwidth, precision?_of_le hne h]
  cases d.precision with
  | none | some ds => rfl

theorem exists_layQuoted (s : String) : ∃ t, d.layQuoted s = .ok t := by
  rw [layQuoted, width?, count_of_le hwidth]
  exact ⟨_, rfl⟩

theorem layInt_of_short {n : Int} (h : (Value.int n).Short) : d.layInt n =
    .ok (d.padNumber (digitsValue d.width) (decide (n < 0)) (natDigits n.natAbs)) := by
  rw [layInt, width?, count_of_le hwidth]
  have hn : n.natAbs < limitBound := h n (by simp [Value.integers])
  dsimp only [bind, Except.bind]
  rw [if_pos hn]
  rfl

theorem layDouble_of_bare (h : d.precision = some []) (x : Double) :
    d.layDouble x = .error .missingPrecision := by
  rw [layDouble, width?, count_of_le hwidth, precision?_of_bare h]
  rfl

theorem exists_layDouble (hne : d.precision ≠ some [])
    (h : ∀ ds ∈ d.precision, digitsValue ds ≤ precisionLimit) (x : Double) :
    ∃ t, d.layDouble x = .ok t := by
  have hcount (ds) (hds : ds ∈ d.precision) : digitsValue ds ≤ countLimit :=
    Nat.le_trans (h ds hds) (by decide)
  have hplaces : ¬ precisionLimit < (d.precision.map digitsValue).getD 6 := by
    cases hp : d.precision with
    | none => decide
    | some ds => exact Nat.not_lt.mpr (h ds hp)
  rw [layDouble, width?, count_of_le hwidth, precision?_of_le hne hcount]
  cases x with
  | nan | infinite | finite => exact ⟨_, if_neg hplaces⟩

end Laying

theorem exists_printed (h : ¬ v.HoldsLongInteger) : ∃ s, printed v = .ok s := by
  obtain ⟨s, hs⟩ := Value.exists_print (Value.short_iff.mpr h)
  exact ⟨s, by rw [printed, hs]⟩

/-- An integer within the range is laid out as the number nearest to it. -/
theorem exists_lay_rounded {n : Int} (hverb : d.verb ∈ ['f', 'e', 'g'])
    (hn : n.natAbs < Double.rangeBound) : ∃ x, d.lay (.int n) = d.layDouble x := by
  obtain ⟨x, hx⟩ := Option.isSome_iff_exists.mp (Double.isSome_ofInt?_iff.mpr hn)
  refine ⟨x, ?_⟩
  rw [lay_fraction hverb]
  dsimp only
  rw [hx]

/-- How a fitting argument is laid out depends on the verb. -/
theorem lay_cases (hfit : Fits d.verb v) :
    ((d.verb = 'v' ∨ d.verb = 's') ∧ ∃ s, d.lay v = d.layText s) ∨
      (d.verb = 'q' ∧ ∃ s, d.lay v = d.layQuoted s) ∨
      (d.verb = 'd' ∧ ∃ n, (Value.int n).Short ∧ d.lay v = d.layInt n) ∨
      (d.verb ∈ ['f', 'e', 'g'] ∧ ∃ x, d.lay v = d.layDouble x) := by
  cases hfit with
  | any hverb hv =>
    obtain ⟨s, hs⟩ := exists_printed hv
    rcases hverb with hverb | hverb
    · exact .inl ⟨.inl hverb, s, by rw [lay_value hverb, hs]; rfl⟩
    · exact .inr (.inl ⟨hverb, s, by rw [lay_quoted hverb, hs]; rfl⟩)
  | @text s hverb => exact .inl ⟨.inr hverb, s, lay_text hverb⟩
  | @whole n hverb hn =>
    exact .inr (.inr (.inl ⟨hverb, n, Value.short_iff.mpr hn, lay_whole hverb⟩))
  | rounded hverb hn => exact .inr (.inr (.inr ⟨hverb, exists_lay_rounded hverb hn⟩))
  | @fraction x hverb => exact .inr (.inr (.inr ⟨hverb, x, lay_fraction hverb⟩))

/-- A fitting argument is laid out, unless a point has no digits where they would count. -/
theorem exists_lay (hfit : Fits d.verb v) (hd : d.InLimits) (hbare : ¬ d.IsBare) :
    ∃ t, d.lay v = .ok t := by
  rcases lay_cases hfit with ⟨hverb, s, hs⟩ | ⟨-, s, hs⟩ | ⟨-, n, hn, hs⟩ | ⟨hverb, x, hs⟩
  · have hne : d.precision ≠ some [] := fun hp =>
      hbare ⟨hp, by rcases hverb with h | h <;> simp [h]⟩
    exact ⟨_, hs.trans (layText_of_le hd.width hne (hd.cut hverb) s)⟩
  · rw [hs]
    exact exists_layQuoted hd.width s
  · exact ⟨_, hs.trans (layInt_of_short hd.width hn)⟩
  · have hne : d.precision ≠ some [] := fun hp =>
      hbare ⟨hp, List.mem_append_right ['v', 's'] hverb⟩
    rw [hs]
    exact exists_layDouble hd.width hne (hd.places hverb) x

theorem lay_of_bare (hfit : Fits d.verb v) (hd : d.InLimits) (hbare : d.IsBare) :
    d.lay v = .error .missingPrecision := by
  obtain ⟨hp, hcounts⟩ := hbare
  rcases lay_cases hfit with ⟨-, s, hs⟩ | ⟨hverb, -⟩ | ⟨hverb, -⟩ | ⟨-, x, hs⟩
  · rw [hs]
    exact layText_of_bare hd.width hp s
  · simp [hverb] at hcounts
  · simp [hverb] at hcounts
  · rw [hs]
    exact layDouble_of_bare hd.width hp x

end Directive

/-- In a format of these parts, the directive takes the argument. -/
def TakesArgument (xs : List Chunk) (vs : List Value) (d : Directive) (v : Value) : Prop :=
  ∃ n, (n, .directive d) ∈ numbered 0 xs ∧ d.verb ≠ '%' ∧ vs[n]? = some v

/-- All arguments fit the directives that take them, and those left over can be written. -/
structure Fitted (xs : List Chunk) (vs : List Value) : Prop where
  taken : ∀ d v, TakesArgument xs vs d v → Fits d.verb v ∧ d.InLimits
  left : ∀ v ∈ vs.drop (xs.countP Chunk.takes), ¬ v.HoldsLongInteger

variable {xs : List Chunk} {vs : List Value}

theorem fillWith_of_takes {n : Nat} {d : Directive} {v : Value} (hp : d.verb ≠ '%')
    (hv : vs[n]? = some v) : (Chunk.directive d).fillWith vs n = d.lay v := by
  unfold Chunk.fillWith
  dsimp only
  rw [if_neg (by simpa using hp), hv]

/-- What takes no argument is always filled in. -/
theorem fillWith_cases (vs : List Value) {n : Nat} {x : Chunk} (h : (n, x) ∈ numbered 0 xs) :
    (∃ t, x.fillWith vs n = .ok t) ∨
      ∃ d v, TakesArgument xs vs d v ∧ x.fillWith vs n = d.lay v := by
  cases x with
  | literal c => exact .inl ⟨[c], rfl⟩
  | directive d =>
    by_cases hp : d.verb = '%'
    · exact .inl ⟨['%'], if_pos (beq_iff_eq.mpr hp)⟩
    · cases hv : vs[n]? with
      | some v => exact .inr ⟨d, v, ⟨n, h, hp, hv⟩, fillWith_of_takes hp hv⟩
      | none =>
        have hn := List.getElem?_eq_none_iff.mp hv
        exact .inl ⟨_, fillWith_eq_ok_iff.mpr (.missing hp hn)⟩

theorem exists_extraText (h : ∀ v ∈ vs, ¬ v.HoldsLongInteger) :
    ∃ extra, extraText vs = .ok extra := by
  cases vs with
  | nil => exact ⟨[], rfl⟩
  | cons v vs =>
    have hlisted : ∀ w ∈ v :: vs, ∃ t, IsListed w t := by
      intro w hw
      obtain ⟨s, hs⟩ := Value.exists_print (Value.short_iff.mpr (h w hw))
      exact ⟨_, s, hs, rfl⟩
    obtain ⟨ts, hts⟩ := exists_forall₂ (R := IsListed) hlisted
    exact ⟨_, extraText_eq_ok_iff.mpr (.some hts)⟩

/-- The parts are filled in if each of them is. -/
theorem exists_fill {n : Nat} (h : ∀ p ∈ numbered n xs, ∃ t, p.2.fillWith vs p.1 = .ok t)
    (hextra : ∃ extra, extraText (vs.drop (n + xs.countP Chunk.takes)) = .ok extra) :
    ∃ out, fill xs (vs.drop n) = .ok out := by
  obtain ⟨ts, hts⟩ := exists_forall₂ h
  obtain ⟨extra, hextra⟩ := hextra
  exact ⟨_, fill_eq_ok_iff.mpr ⟨ts, extra, rfl, hts.imp fun _ _ => fillWith_eq_ok_iff.mp,
    extraText_eq_ok_iff.mp hextra⟩⟩

/-- The parts are not filled in if one of them fails, and fail as it does if all others are. -/
theorem fill_eq_error {n : Nat} {e : FormatError}
    (h : ∀ p ∈ numbered n xs, p.2.fillWith vs p.1 = .error e ∨ ∃ t, p.2.fillWith vs p.1 = .ok t)
    (hfails : ∃ p ∈ numbered n xs, p.2.fillWith vs p.1 = .error e) :
    fill xs (vs.drop n) = .error e := by
  induction xs generalizing n with
  | nil =>
    obtain ⟨p, hp, -⟩ := hfails
    cases hp
  | cons x xs ih =>
    rw [numbered] at h hfails
    rw [fill_cons]
    rcases h (n, x) (List.mem_cons_self ..) with hx | ⟨t, hx⟩
    · rw [hx]
      rfl
    · obtain ⟨p, hp, hfail⟩ := hfails
      rcases List.mem_cons.mp hp with rfl | hp
      · rw [hfail] at hx
        cases hx
      · rw [hx, ih (fun q hq => h q (List.mem_cons_of_mem _ hq)) ⟨p, hp, hfail⟩]
        rfl

theorem Fitted.fillWith (hfit : Fitted xs vs) {p : Nat × Chunk} (hp : p ∈ numbered 0 xs) :
    (∃ t, p.2.fillWith vs p.1 = .ok t) ∨ p.2.fillWith vs p.1 = .error .missingPrecision ∧
      ∃ d v, TakesArgument xs vs d v ∧ d.IsBare := by
  rcases fillWith_cases vs hp with ht | ⟨d, v, htakes, hlay⟩
  · exact .inl ht
  · obtain ⟨hfits, hd⟩ := hfit.taken d v htakes
    rw [hlay]
    by_cases hbare : d.IsBare
    · exact .inr ⟨Directive.lay_of_bare hfits hd hbare, d, v, htakes, hbare⟩
    · exact .inl (Directive.exists_lay hfits hd hbare)

/-- Where all arguments fit, a text is written if no directive that takes one has a point without
digits where they would count, and nothing is written if there is such a directive. -/
theorem printf_fitted {fmt : String} (hcuts : Cuts fmt.toList xs) (hfit : Fitted xs vs) :
    ((∀ d v, TakesArgument xs vs d v → ¬ d.IsBare) →
        ∃ t, Builtin.printf.apply (.text fmt :: vs) = .ok (.text t)) ∧
      ((∃ d v, TakesArgument xs vs d v ∧ d.IsBare) →
        Builtin.printf.apply (.text fmt :: vs) = .error (.format .missingPrecision)) := by
  have happly : Builtin.printf.apply (.text fmt :: vs) = format (.text fmt) vs := rfl
  rw [happly, format, chunks_of_cuts hcuts]
  constructor
  · intro hbare
    have hparts : ∀ p ∈ numbered 0 xs, ∃ t, p.2.fillWith vs p.1 = .ok t := by
      intro p hp
      rcases hfit.fillWith hp with ht | ⟨-, d, v, htakes, hb⟩
      · exact ht
      · exact absurd hb (hbare d v htakes)
    have hextra : ∃ extra, extraText (vs.drop (0 + xs.countP Chunk.takes)) = .ok extra := by
      rw [Nat.zero_add]
      exact exists_extraText hfit.left
    obtain ⟨out, hout⟩ := exists_fill hparts hextra
    rw [List.drop_zero] at hout
    rw [hout]
    exact ⟨_, rfl⟩
  · rintro ⟨d, v, ⟨n, hn, hverb, hv⟩, hbare⟩
    obtain ⟨hfits, hd⟩ := hfit.taken d v ⟨n, hn, hverb, hv⟩
    have hfails : fill xs (vs.drop 0) = .error .missingPrecision := by
      refine fill_eq_error (fun p hp => ?_) ⟨_, hn, ?_⟩
      · exact (hfit.fillWith hp).symm.imp_left And.left
      · exact (fillWith_of_takes hverb hv).trans (Directive.lay_of_bare hfits hd hbare)
    rw [List.drop_zero] at hfails
    rw [hfails]

theorem printf_fitted_padded :
    ∃ t, Builtin.printf.apply [.text "%+08.2f|%.1s", .int 2, .text "ab", .nil] = .ok (.text t) := by
  have hchunks : chunks "%+08.2f|%.1s".toList =
      [.directive ⟨['+', '0'], ['8'], some ['2'], 'f'⟩, .literal '|',
        .directive ⟨[], [], some ['1'], 's'⟩] := by
    with_unfolding_all rfl
  have htakes : ∀ d v, TakesArgument (chunks "%+08.2f|%.1s".toList) [.int 2, .text "ab", .nil] d v →
      d = ⟨['+', '0'], ['8'], some ['2'], 'f'⟩ ∧ v = .int 2 ∨
        d = ⟨[], [], some ['1'], 's'⟩ ∧ v = .text "ab" := by
    rintro d v ⟨n, hn, -, hv⟩
    rw [hchunks] at hn
    simp only [numbered, Chunk.takes, List.mem_cons, Prod.mk.injEq, List.not_mem_nil] at hn
    rcases hn with ⟨rfl, hd⟩ | ⟨-, hd⟩ | ⟨rfl, hd⟩ | hn
    · cases hd
      cases hv
      exact .inl ⟨rfl, rfl⟩
    · cases hd
    · cases hd
      cases hv
      exact .inr ⟨rfl, rfl⟩
    · cases hn
  refine (printf_fitted (cuts_chunks _) ⟨?_, ?_⟩).1 ?_
  · intro d v h
    rcases htakes d v h with ⟨rfl, rfl⟩ | ⟨rfl, rfl⟩
    · refine ⟨.rounded (by simp) (by decide +kernel), by decide, by simp, ?_⟩
      rintro - ds ⟨⟩
      decide
    · refine ⟨.text rfl, by decide, ?_, by simp⟩
      rintro - ds ⟨⟩
      decide
  · intro v hv
    rw [hchunks] at hv
    cases List.mem_singleton.mp hv
    exact Value.short_iff.mp (Value.short_of_integers_eq_nil rfl)
  · rintro d v h ⟨hbare, -⟩
    rcases htakes d v h with ⟨rfl, -⟩ | ⟨rfl, -⟩ <;> cases hbare

/-- The point of `%.f` has no digits, so the number is not written. -/
theorem printf_bare_point :
    Directive.at? ".f".toList = some ⟨[], [], some [], 'f'⟩ ∧
      Fits 'f' (.float (.finite false 6755399441055744 (-52))) ∧
      Directive.InLimits ⟨[], [], some [], 'f'⟩ ∧
      Builtin.printf.apply [.text "%.f", .float (.finite false 6755399441055744 (-52))] =
        .error (.format .missingPrecision) := by
  refine ⟨by with_unfolding_all rfl, .fraction (by simp), ⟨by decide, by simp, ?_⟩, ?_⟩
  · rintro - ds ⟨⟩
    decide
  · with_unfolding_all rfl

end AlertRelay.Template
