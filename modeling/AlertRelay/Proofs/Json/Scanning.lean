import AlertRelay.Proofs.Json.Grammar
import AlertRelay.Proofs.Json.Reading
import AlertRelay.Proofs.Text.Split
import Mathlib.Data.List.TakeWhile

/-!
The readers of texts and of numbers take what the grammar calls a text or a number, and nothing
else.
-/

namespace AlertRelay.Json

open AlertRelay.Number AlertRelay.Number.Double AlertRelay.Text

/-!
Texts.
-/

theorem readUnits_number {a b c d : Char} (h : [a, b, c, d].all isHex = true) (r : List Char) :
    readUnits ('\\' :: 'u' :: a :: b :: c :: d :: r) =
      withUnit (hexNumber [a, b, c, d]) (readUnits r) := by
  rw [readUnits.eq_3, if_pos h]
  rfl

theorem IsUnits.read {w : List Char} {us : List Nat} (h : IsUnits w us) (r : List Char) :
    readUnits (w ++ '"' :: r) = some (us, r) := by
  induction h with
  | nil => rfl
  | plain hq hb hc _ ih =>
    rw [List.cons_append, readUnits_plain hq hb (by omega), ih]
    rfl
  | @escape c _ _ _ he _ ih =>
    have hu : c ≠ 'u' := by
      rintro rfl
      cases he
    rw [List.cons_append, List.cons_append, readUnits_escaped he hu, ih]
    rfl
  | number hx _ ih =>
    simp only [List.cons_append]
    rw [readUnits_number hx, ih]
    rfl

theorem isUnits_of_readUnits {cs r : List Char} {us : List Nat}
    (h : readUnits cs = some (us, r)) : ∃ w, cs = w ++ '"' :: r ∧ IsUnits w us := by
  fun_induction readUnits cs generalizing us r with
  | case1 => cases h
  | case2 r' =>
    cases h
    exact ⟨[], rfl, .nil⟩
  | case3 a b c d r' hx ih =>
    obtain ⟨⟨us', r''⟩, hread, heq⟩ := Option.map_eq_some_iff.1 h
    cases heq
    obtain ⟨w, rfl, hw⟩ := ih hread
    exact ⟨'\\' :: 'u' :: a :: b :: c :: d :: w, rfl, .number hx hw⟩
  | case4 => cases h
  | case5 c r' _ ih =>
    obtain ⟨e, he, h⟩ := Option.bind_eq_some_iff.1 h
    obtain ⟨⟨us', r''⟩, hread, heq⟩ := Option.map_eq_some_iff.1 h
    cases heq
    obtain ⟨w, rfl, hw⟩ := ih hread
    exact ⟨'\\' :: c :: w, rfl, .escape he hw⟩
  | case6 => cases h
  | case7 c r' hq _ _ hc ih =>
    obtain ⟨⟨us', r''⟩, hread, heq⟩ := Option.map_eq_some_iff.1 h
    cases heq
    obtain ⟨w, rfl, hw⟩ := ih hread
    simp only [Bool.or_eq_true, beq_iff_eq, decide_eq_true_eq, not_or, Nat.not_lt] at hc
    exact ⟨c :: w, rfl, .plain hq hc.1 hc.2 hw⟩

theorem hexValue_lt {c : Char} (h : isHex c = true) : hexValue c < 16 := by
  simp only [isHex, Char.isDigit, Bool.or_eq_true, Bool.and_eq_true, decide_eq_true_eq,
    Char.le_def, UInt32.le_iff_toNat_le, ge_iff_le, Char.reduceVal, UInt32.reduceToNat] at h
  unfold hexValue
  simp only [Char.isDigit, Bool.and_eq_true, decide_eq_true_eq, Char.le_def,
    UInt32.le_iff_toNat_le, ge_iff_le, Char.reduceVal, UInt32.reduceToNat, Char.toNat]
  split_ifs <;> omega

theorem hexNumber_lt {a b c d : Char} (h : [a, b, c, d].all isHex = true) :
    hexNumber [a, b, c, d] < 0x10000 := by
  simp only [List.all_cons, List.all_nil, Bool.and_true, Bool.and_eq_true] at h
  have ha := hexValue_lt h.1
  have hb := hexValue_lt h.2.1
  have hc := hexValue_lt h.2.2.1
  have hd := hexValue_lt h.2.2.2
  simp only [hexNumber, List.foldl_cons, List.foldl_nil]
  omega

/-- A unit is the number of a character or a half of a surrogate pair. -/
theorem IsUnits.valid {w : List Char} {us : List Nat} (h : IsUnits w us) :
    ∀ n ∈ us, n.isValidChar ∨ 0xD800 ≤ n ∧ n < 0xE000 := by
  induction h with
  | nil => simp
  | plain _ _ _ _ ih => exact List.forall_mem_cons.2 ⟨.inl (Char.valid _), ih⟩
  | escape _ _ ih => exact List.forall_mem_cons.2 ⟨.inl (Char.valid _), ih⟩
  | number hx _ ih =>
    refine List.forall_mem_cons.2 ⟨?_, ih⟩
    have := hexNumber_lt hx
    unfold Nat.isValidChar
    omega

theorem IsHighHalf.not_isValidChar {n : Nat} (h : IsHighHalf n) : ¬ n.isValidChar := by
  unfold IsHighHalf at h
  unfold Nat.isValidChar
  omega

/-- A character beyond the first plane is what its two halves are joined to. -/
theorem joinUnits_units {c : Char} (h : 0x10000 ≤ c.toNat) (us : List Nat) :
    joinUnits (units c ++ us) = c :: joinUnits us := by
  have hlt : c.toNat < 0x110000 := by
    have hv : c.toNat < 0xD800 ∨ 0xDFFF < c.toNat ∧ c.toNat < 0x110000 := c.valid
    omega
  have hn : 0x10000 + 0x400 * ((c.toNat - 0x10000) / 0x400) + (c.toNat - 0x10000) % 0x400 =
      c.toNat := by omega
  rw [units, if_neg (by omega), List.cons_append, List.cons_append, List.nil_append, joinUnits,
    if_pos, Nat.add_sub_cancel_left, Nat.add_sub_cancel_left, hn, Char.ofNat_toNat]
  simp only [Bool.and_eq_true, decide_eq_true_eq]
  omega

/-- A unit that begins no pair is read on its own. -/
theorem joinUnits_cons {n : Nat} {us : List Nat}
    (h : ¬ (IsHighHalf n ∧ ∃ m ∈ us.head?, IsLowHalf m)) :
    joinUnits (n :: us) =
      (if n.isValidChar then Char.ofNat n else '\ufffd') :: joinUnits us := by
  cases us with
  | nil => rfl
  | cons m us =>
    rw [joinUnits, if_neg]
    simpa [IsHighHalf, IsLowHalf, and_assoc] using h

theorem Spells.joinUnits_eq {us : List Nat} {s : List Char} (h : Spells us s) :
    joinUnits us = s := by
  induction h with
  | nil => rfl
  | @char c us _ _ ih =>
    have hv : c.toNat.isValidChar := c.valid
    rw [joinUnits_cons fun hp => hp.1.not_isValidChar hv, if_pos hv, Char.ofNat_toNat, ih]
  | pair hc _ ih => rw [joinUnits_units hc, ih]
  | half hl hh hp _ ih =>
    rw [joinUnits_cons hp, if_neg, ih]
    unfold Nat.isValidChar
    omega

theorem toNat_ofNat {n : Nat} (h : n.isValidChar) : (Char.ofNat n).toNat = n := by
  rw [Char.ofNat, dif_pos h]
  rfl

/-- The two halves of a pair are those of the character that they are joined to. -/
theorem units_ofNat_pair {n m : Nat} (hn : IsHighHalf n) (hm : IsLowHalf m) :
    let c := Char.ofNat (0x10000 + 0x400 * (n - 0xD800) + (m - 0xDC00))
    0x10000 ≤ c.toNat ∧ units c = [n, m] := by
  unfold IsHighHalf at hn
  unfold IsLowHalf at hm
  have hv : (0x10000 + 0x400 * (n - 0xD800) + (m - 0xDC00)).isValidChar := by
    unfold Nat.isValidChar
    omega
  dsimp only
  rw [units, toNat_ofNat hv, if_neg (by omega)]
  simp only [List.cons.injEq, and_true]
  omega

/-- A unit that begins no pair spells one character. -/
theorem Spells.unit {n : Nat} {us : List Nat} {s : List Char}
    (hn : n.isValidChar ∨ 0xD800 ≤ n ∧ n < 0xE000)
    (hp : ¬ (IsHighHalf n ∧ ∃ m ∈ us.head?, IsLowHalf m)) (h : Spells us s) :
    Spells (n :: us) ((if n.isValidChar then Char.ofNat n else '\ufffd') :: s) := by
  split
  · next hv =>
    have hchar := Spells.char (c := Char.ofNat n) h
    rwa [toNat_ofNat hv] at hchar
  · next hv =>
    obtain ⟨hl, hh⟩ := hn.resolve_left hv
    exact .half hl hh hp h

theorem spells_joinUnits {us : List Nat}
    (h : ∀ n ∈ us, n.isValidChar ∨ 0xD800 ≤ n ∧ n < 0xE000) : Spells us (joinUnits us) := by
  fun_induction joinUnits us with
  | case1 => exact .nil
  | case2 n => exact .unit (h n (by simp)) (by simp) .nil
  | case3 n m us hpair ih =>
    simp only [Bool.and_eq_true, decide_eq_true_eq, and_assoc] at hpair
    obtain ⟨hc, hu⟩ := units_ofNat_pair ⟨hpair.1, hpair.2.1⟩ hpair.2.2
    have := Spells.pair hc (ih fun k hk => h k (by simp [hk]))
    rwa [hu] at this
  | case4 n m us hpair ih =>
    refine .unit (h n (by simp)) ?_ (ih fun k hk => h k (List.mem_cons_of_mem n hk))
    simpa [IsHighHalf, IsLowHalf, and_assoc] using hpair

theorem IsText.read {w s : List Char} (h : IsText w s) (r : List Char) :
    readText (w ++ '"' :: r) = some (s, r) := by
  obtain ⟨us, hw, hs⟩ := h
  rw [readText, hw.read]
  simp [hs.joinUnits_eq]

theorem isText_of_readText {cs r s : List Char} (h : readText cs = some (s, r)) :
    ∃ w, cs = w ++ '"' :: r ∧ IsText w s := by
  obtain ⟨⟨us, r'⟩, hread, heq⟩ := Option.map_eq_some_iff.1 h
  cases heq
  obtain ⟨w, rfl, hw⟩ := isUnits_of_readUnits hread
  exact ⟨w, rfl, us, hw, spells_joinUnits hw.valid⟩

/-!
Numbers.
-/

/-- What may follow a number without going on with it. -/
def Stops (r : List Char) : Prop :=
  ∀ c ∈ r.head?, isDecimalDigit c = false ∧ c ≠ '.' ∧ c ≠ 'e' ∧ c ≠ 'E'

theorem IsDigits.head {ds : List Char} (h : IsDigits ds) :
    ∃ c r, ds = c :: r ∧ isDecimalDigit c = true := by
  obtain ⟨c, r, rfl⟩ := List.exists_cons_of_ne_nil h.1
  exact ⟨c, r, rfl, h.2 c (by simp)⟩

theorem IsWhole.isDigits {ds : List Char} (h : IsWhole ds) : IsDigits ds := by
  obtain rfl | h := h
  · exact ⟨by simp, List.all_eq_true.1 rfl⟩
  · exact h.1

theorem IsWhole.read {ds r : List Char} (h : IsWhole ds)
    (hr : ∀ c ∈ r.head?, isDecimalDigit c = false) : wholeOf (ds ++ r) = ds := by
  obtain rfl | ⟨hd, hzero⟩ := h
  · rfl
  · obtain ⟨c, ds, rfl, _⟩ := hd.head
    rw [wholeOf.eq_2, takeWhile_append_stop hd.2 hr]
    rintro r' heq
    cases heq
    exact hzero rfl

theorem IsFraction.read {f r : List Char} (h : IsFraction f)
    (hr : ∀ c ∈ r.head?, isDecimalDigit c = false ∧ c ≠ '.') : fractionOf (f ++ r) = f := by
  cases h with
  | none =>
    rw [List.nil_append, fractionOf.eq_2]
    rintro r' rfl
    exact (hr '.' rfl).2 rfl
  | @point ds hd =>
    have hds := takeWhile_append_stop hd.2 fun c hc => (hr c hc).1
    simp [fractionOf, hds, hd.1]

theorem takeWhile_sign {sign ds r : List Char} (hs : sign = [] ∨ sign = ['+'] ∨ sign = ['-'])
    (hd : IsDigits ds) :
    (sign ++ (ds ++ r)).takeWhile (fun c => c == '+' || c == '-') = sign := by
  obtain ⟨c, ds, rfl, hc⟩ := hd.head
  have hplus : c ≠ '+' := by
    rintro rfl
    cases hc
  have hminus : c ≠ '-' := by
    rintro rfl
    cases hc
  obtain rfl | rfl | rfl := hs <;> simp [hplus, hminus]

theorem IsExponent.read {x r : List Char} (h : IsExponent x) (hr : Stops r) :
    exponentOf (x ++ r) = x := by
  cases h with
  | none =>
    cases r with
    | nil => rfl
    | cons c r =>
      obtain ⟨-, -, he, hE⟩ := hr c rfl
      simp [exponentOf, he, hE]
  | @power e sign ds he hs hd =>
    have hsign := takeWhile_sign (r := r) hs hd
    have hds := takeWhile_append_stop hd.2 fun c hc => (hr c hc).1
    have hlength : sign.length ≤ 1 := by
      obtain rfl | rfl | rfl := hs <;> simp
    have hne := hd.1
    rw [List.cons_append, List.append_assoc, exponentOf]
    simp [hsign, hds, he, hlength, hne]

/-- Behind the digits of a number stands none that goes on with them. -/
theorem head?_exponent {x r : List Char} (h : IsExponent x) (hr : Stops r) :
    ∀ c ∈ (x ++ r).head?, isDecimalDigit c = false ∧ c ≠ '.' := by
  cases h with
  | none => exact fun c hc => ⟨(hr c hc).1, (hr c hc).2.1⟩
  | power he _ _ =>
    rintro c ⟨⟩
    obtain rfl | rfl := he <;> decide

theorem head?_fraction {f r : List Char} (h : IsFraction f)
    (hr : ∀ c ∈ r.head?, isDecimalDigit c = false ∧ c ≠ '.') :
    ∀ c ∈ (f ++ r).head?, isDecimalDigit c = false := by
  cases h with
  | none => exact fun c hc => (hr c hc).1
  | point _ =>
    rintro c ⟨⟩
    rfl

theorem isLong_parts {sign whole fraction exponent : List Char} (hs : sign = [] ∨ sign = ['-'])
    (hw : IsWhole whole) (hf : IsFraction fraction) (hx : IsExponent exponent) :
    isLong (sign ++ whole ++ fraction ++ exponent) =
      (fraction.isEmpty && exponent.isEmpty && decide (digitLimit < whole.length)) := by
  have hd := hw.isDigits.2
  have hall : whole.all (fun c => c == '-' || isDecimalDigit c) = true := by
    simpa using fun c hc => .inr (hd c hc)
  have hfilter : whole.filter isDecimalDigit = whole := List.filter_eq_self.2 hd
  have hsign : sign.all (fun c => c == '-' || isDecimalDigit c) = true ∧
      sign.filter isDecimalDigit = [] := by
    obtain rfl | rfl := hs <;> decide
  unfold isLong
  rw [List.all_append, List.all_append, List.all_append, hsign.1, hall]
  cases hf with
  | point _ => simp [show isDecimalDigit '.' = false by decide]
  | none =>
    cases hx with
    | none => simp [hsign.2, hfilter]
    | power he _ _ => obtain rfl | rfl := he <;> simp [show isDecimalDigit 'e' = false by decide,
        show isDecimalDigit 'E' = false by decide]

/-- A number whose parts stand one after the other is taken apart again. -/
theorem IsNumber.read {n r : List Char} (h : IsNumber n) (hr : Stops r) :
    readNumber (n ++ r) = if isLong n then none else some (n, r) := by
  obtain @⟨sign, whole, fraction, exponent, hs, hw, hf, hx⟩ := h
  have hexponent := head?_exponent hx hr
  have hwhole := hw.read (r := fraction ++ (exponent ++ r)) (head?_fraction hf hexponent)
  obtain ⟨c, ds, hc, hdigit⟩ := hw.isDigits.head
  have hsign : (if (sign ++ (whole ++ (fraction ++ (exponent ++ r)))).head? == some '-'
      then ['-'] else []) = sign := by
    obtain rfl | rfl := hs
    · rw [hc]
      have hminus : c ≠ '-' := by
        rintro rfl
        cases hdigit
      simp [hminus]
    · rfl
  have hne : whole.isEmpty = false := by rw [hc]; rfl
  rw [isLong_parts hs hw hf hx]
  unfold readNumber
  simp only [List.append_assoc, hsign, List.drop_left, hwhole, hf.read hexponent, hx.read hr, hne,
    Bool.false_eq_true, if_false]

theorem isDigits_takeWhile {cs : List Char} (h : cs.takeWhile isDecimalDigit ≠ []) :
    IsDigits (cs.takeWhile isDecimalDigit) := ⟨h, fun _ => List.mem_takeWhile_imp⟩

theorem wholeOf_isPrefix (cs : List Char) : wholeOf cs <+: cs := by
  fun_cases wholeOf cs with
  | case1 r => exact ⟨r, rfl⟩
  | case2 => exact List.takeWhile_prefix _

theorem isWhole_wholeOf {cs : List Char} (h : wholeOf cs ≠ []) : IsWhole (wholeOf cs) := by
  fun_cases wholeOf cs with
  | case1 => exact .inl rfl
  | case2 cs hzero =>
    rw [wholeOf.eq_2 cs hzero] at h
    refine .inr ⟨isDigits_takeWhile h, ?_⟩
    cases cs with
    | nil => exact absurd rfl h
    | cons c r =>
      intro hc
      rw [List.head?_takeWhile] at hc
      obtain ⟨heq, -⟩ := Option.filter_eq_some_iff.1 hc
      cases heq
      exact hzero r rfl

theorem fractionOf_isPrefix (cs : List Char) : fractionOf cs <+: cs := by
  fun_cases fractionOf cs with
  | case1 => exact List.nil_prefix
  | case2 r => exact (List.prefix_cons_inj '.').2 (List.takeWhile_prefix _)
  | case3 => exact List.nil_prefix

theorem isFraction_fractionOf (cs : List Char) : IsFraction (fractionOf cs) := by
  fun_cases fractionOf cs with
  | case1 => exact .none
  | case2 r digits hd => exact .point (isDigits_takeWhile fun h => hd (List.isEmpty_iff.2 h))
  | case3 => exact .none

theorem exponentOf_isPrefix (cs : List Char) : exponentOf cs <+: cs := by
  fun_cases exponentOf cs with
  | case1 => exact List.nil_prefix
  | case2 e r sign digits _ =>
    obtain ⟨t, ht⟩ : sign <+: r := List.takeWhile_prefix _
    have hdrop : r.drop sign.length = t := by rw [← ht, List.drop_left]
    obtain ⟨t', ht'⟩ : digits <+: t := hdrop ▸ List.takeWhile_prefix _
    exact ⟨t', by rw [← ht, ← ht']; simp⟩
  | case3 => exact List.nil_prefix

theorem isExponent_exponentOf (cs : List Char) : IsExponent (exponentOf cs) := by
  fun_cases exponentOf cs with
  | case1 => exact .none
  | case2 e r sign digits h =>
    simp only [Bool.and_eq_true, Bool.or_eq_true, beq_iff_eq, decide_eq_true_eq,
      Bool.not_eq_true'] at h
    obtain ⟨⟨he, hlength⟩, hd⟩ := h
    have hsign : sign = [] ∨ sign = ['+'] ∨ sign = ['-'] := by
      have hmem : ∀ c ∈ sign, c = '+' ∨ c = '-' := fun c hc => by
        simpa using List.mem_takeWhile_imp hc
      match sign, hlength, hmem with
      | [], _, _ => exact .inl rfl
      | [c], _, hmem => obtain rfl | rfl := hmem c (by simp) <;> simp
    have hdigits : IsDigits digits :=
      isDigits_takeWhile fun h => Bool.noConfusion (hd.symm.trans (List.isEmpty_iff.2 h))
    exact .power he hsign hdigits
  | case3 => exact .none

theorem isNumber_of_readNumber {cs n r : List Char} (h : readNumber cs = some (n, r)) :
    cs = n ++ r ∧ IsNumber n ∧ isLong n = false := by
  obtain ⟨sign, r₁, hs, hcs, hsign⟩ : ∃ sign r₁, (sign = [] ∨ sign = ['-']) ∧ cs = sign ++ r₁ ∧
      (if cs.head? == some '-' then ['-'] else []) = sign := by
    split
    · next hc =>
      obtain ⟨r₁, rfl⟩ : ∃ r₁, cs = '-' :: r₁ := by
        simpa [List.head?_eq_some_iff] using hc
      exact ⟨_, r₁, .inr rfl, rfl, rfl⟩
    · exact ⟨_, cs, .inl rfl, rfl, rfl⟩
  have hdrop : cs.drop sign.length = r₁ := by rw [hcs, List.drop_left]
  have hwhole := List.prefix_iff_eq_append.1 (wholeOf_isPrefix r₁)
  have hfraction := List.prefix_iff_eq_append.1 (fractionOf_isPrefix (r₁.drop (wholeOf r₁).length))
  unfold readNumber at h
  simp only [hsign, hdrop] at h
  split at h
  · cases h
  · next hne =>
    have hw := isWhole_wholeOf fun h => hne (List.isEmpty_iff.2 h)
    have hf := isFraction_fractionOf (r₁.drop (wholeOf r₁).length)
    generalize r₁.drop (wholeOf r₁).length = r₂ at *
    generalize r₂.drop (fractionOf r₂).length = r₃ at *
    have hexponent := List.prefix_iff_eq_append.1 (exponentOf_isPrefix r₃)
    have hx := isExponent_exponentOf r₃
    split at h
    · cases h
    · next hlong =>
      cases h
      refine ⟨?_, ⟨hs, hw, hf, hx⟩, ?_⟩
      · rw [List.append_assoc, List.append_assoc, List.append_assoc, hexponent, hfraction, hwhole,
          hcs]
      · rw [isLong_parts hs hw hf hx]
        exact Bool.eq_false_iff.2 hlong

end AlertRelay.Json
