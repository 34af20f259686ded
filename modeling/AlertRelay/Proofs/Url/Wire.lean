import AlertRelay.Proofs.Result
import AlertRelay.Proofs.Text.Split
import AlertRelay.Proofs.Url.Escaping
import AlertRelay.Url.Label
import Mathlib.Data.List.GetD

/-!
The characters of a name on the wire. The labels that pass the checks hold no plain character but
letters, digits and hyphens, and Punycode writes the others with these.
-/

namespace AlertRelay.Text.Ranges

/-- Halving finds the place where the bounds pass `n`. -/
theorem countBelow_eq {r : Ranges} {n low high k : Nat} (hlow : low ≤ k) (hhigh : k ≤ high)
    (hbelow : ∀ i < k, r.bounds.getD i 0 ≤ n)
    (habove : ∀ i < high, k ≤ i → n < r.bounds.getD i 0) : r.countBelow n low high = k := by
  fun_induction countBelow r n low high with
  | case1 low high hlt mid hmid ih =>
    have hk : mid < k := Nat.lt_of_not_le fun hk =>
      absurd hmid (Nat.not_le.mpr (habove mid (by omega) hk))
    exact ih hk hhigh habove
  | case2 low high hlt mid hmid ih =>
    have hk : k ≤ mid := Nat.le_of_not_lt fun hk => hmid (hbelow mid hk)
    exact ih hlow hk fun i hi => habove i (by omega)
  | case3 low high hlt => omega

/-- A number belongs to the set if an odd count of bounds lies before the place where it falls. -/
theorem contains_eq {r : Ranges} {n : Nat} {below above : List Nat}
    (h : r.bounds.toList = below ++ above) (hbelow : ∀ b ∈ below, b ≤ n)
    (habove : ∀ b ∈ above, n < b) : r.contains n = (below.length % 2 == 1) := by
  have hsize : r.bounds.size = below.length + above.length := by
    rw [← Array.length_toList, h, List.length_append]
  have hget (i : Nat) : r.bounds.getD i 0 = (below ++ above).getD i 0 := by
    rw [← h, List.getD_eq_getElem?_getD, Array.getElem?_toList, Array.getD_eq_getD_getElem?]
  unfold contains
  rw [countBelow_eq (Nat.zero_le below.length) (by omega)]
  · intro i hi
    rw [hget, List.getD_append _ _ _ _ hi, List.getD_eq_getElem _ _ hi]
    exact hbelow _ (List.getElem_mem hi)
  · intro i hi hk
    have hlt : i - below.length < above.length := by omega
    rw [hget, List.getD_append_right _ _ _ _ hk, List.getD_eq_getElem _ _ hlt]
    exact habove _ (List.getElem_mem hlt)

end AlertRelay.Text.Ranges

namespace AlertRelay.Text.Punycode

theorem threshold_le (place bias : Nat) : threshold place bias ≤ 26 := by
  unfold threshold
  dsimp only
  split
  · omega
  · split <;> omega

theorem mem_numberDigits {d place bias n : Nat} (h : d ∈ numberDigits place bias n) :
    ∃ k < 36, d = digitChar k := by
  fun_induction numberDigits place bias n with
  | case1 place n t hlt =>
    have ht := threshold_le place bias
    exact ⟨n, by omega, List.mem_singleton.mp h⟩
  | case2 place n t hlt hstep ih =>
    rcases List.mem_cons.mp h with rfl | h
    · have := Nat.mod_lt (n - t) (show 0 < 36 - t by omega)
      exact ⟨_, by omega, rfl⟩
    · exact ih h
  | case3 => cases h

/-- Whatever holds of digits holds of all that is written out. -/
theorem mem_out_pass {P : Nat → Prop} (hdigit : ∀ k < 36, P (digitChar k)) {n c : Nat}
    {e : Encoder} (h : ∀ d ∈ e.out, P d) : ∀ d ∈ (e.pass n c).out, P d := by
  unfold Encoder.pass
  intro d hd
  split at hd
  · exact h d hd
  · split at hd
    · rcases List.mem_append.mp hd with hd | hd
      · obtain ⟨k, hk, rfl⟩ := mem_numberDigits (List.mem_reverse.mp hd)
        exact hdigit k hk
      · exact h d hd
    · exact h d hd

theorem mem_out_foldl {P : Nat → Prop} (hdigit : ∀ k < 36, P (digitChar k)) {n : Nat}
    (codes : List Nat) {e : Encoder} (h : ∀ d ∈ e.out, P d) :
    ∀ d ∈ (codes.foldl (Encoder.pass n) e).out, P d := by
  induction codes generalizing e with
  | nil => exact h
  | cons c codes ih => exact ih (mem_out_pass hdigit h)

theorem mem_out_encodeExtra {P : Nat → Prop} (hdigit : ∀ k < 36, P (digitChar k))
    {codes : List Nat} (extra : List Nat) {e : Encoder} {before : Nat} (h : ∀ d ∈ e.out, P d) :
    ∀ d ∈ (encodeExtra codes e before extra).out, P d := by
  induction extra generalizing e before with
  | nil => exact h
  | cons n extra ih => exact ih (mem_out_foldl hdigit codes h)

/-- A code point is written as it is, or with digits behind a hyphen. -/
theorem mem_encode {P : Nat → Prop} (hdigit : ∀ k < 36, P (digitChar k)) (hhyphen : P 45)
    {codes : List Nat} (hplain : ∀ n ∈ codes, n < 0x80 → P n) : ∀ d ∈ encode codes, P d := by
  intro d hd
  unfold encode at hd
  rcases List.mem_append.mp hd with hd | hd
  · have hplain : d ∈ codes.filter (· < 0x80) ∨ d = 45 := by
      split at hd
      · cases hd
      · simpa using hd
    rcases hplain with hd | rfl
    · obtain ⟨hd, hlt⟩ := List.mem_filter.mp hd
      exact hplain d hd (of_decide_eq_true hlt)
    · exact hhyphen
  · exact mem_out_encodeExtra hdigit _ (by simp) d (List.mem_reverse.mp hd)

end AlertRelay.Text.Punycode

namespace AlertRelay.Url

open AlertRelay.Text

variable {n : Nat} {label codes : List Nat}

/-- A code point that stands on the wire: a letter, a digit or a mark that is never escaped. -/
def IsWire (n : Nat) : Prop := n < 0x80 ∧ isUnreserved (Char.ofNat n) = true

instance : DecidablePred IsWire := fun _ => inferInstanceAs (Decidable (_ ∧ _))

/-- Where membership among the letters of a name changes below the first 128 characters. -/
def plainBounds : List Nat := [45, 46, 48, 58, 97, 123]

theorem letterBounds_toList : letterRanges.bounds.toList =
    plainBounds ++ (lowLetterBounds.toList.drop 6 ++ highLetterBounds.toList) := by
  rw [← List.append_assoc, show plainBounds = lowLetterBounds.toList.take 6 by decide +kernel,
    List.take_append_drop, ← Array.toList_append]
  rfl

theorem foreign_of_mem_letterBounds {b : Nat}
    (h : b ∈ lowLetterBounds.toList.drop 6 ++ highLetterBounds.toList) : 0x80 ≤ b := by
  have hall : ((lowLetterBounds.toList.drop 6 ++ highLetterBounds.toList).all (0x80 ≤ ·)) = true :=
    by decide +kernel
  exact of_decide_eq_true (List.all_eq_true.mp hall b h)

theorem isLetter_eq {k : Nat} (hn : n < 0x80) (hbelow : ∀ b ∈ plainBounds.take k, b ≤ n)
    (habove : ∀ b ∈ plainBounds.drop k, n < b) :
    isLetter n = ((plainBounds.take k).length % 2 == 1) := by
  have hbounds : letterRanges.bounds.toList = plainBounds.take k ++ (plainBounds.drop k ++
      (lowLetterBounds.toList.drop 6 ++ highLetterBounds.toList)) := by
    rw [letterBounds_toList, ← List.append_assoc (plainBounds.take k), List.take_append_drop]
  refine Ranges.contains_eq hbounds hbelow fun b hb => ?_
  rcases List.mem_append.mp hb with hb | hb
  · exact habove b hb
  · exact Nat.lt_of_lt_of_le hn (foreign_of_mem_letterBounds hb)

/-- Of the first 128 characters only hyphen, digits and small letters are letters of a name. -/
theorem isWire_of_isLetter (hn : n < 0x80) (h : isLetter n = true) : IsWire n := by
  have hrange : n = 45 ∨ 48 ≤ n ∧ n ≤ 57 ∨ 97 ≤ n ∧ n ≤ 122 := by
    by_contra hout
    have hfalse : isLetter n = false := by
      rcases (by omega : n < 45 ∨ 46 ≤ n ∧ n < 48 ∨ 58 ≤ n ∧ n < 97 ∨ 123 ≤ n) with h | h | h | h
      · exact isLetter_eq (k := 0) hn (by simp [plainBounds]) (by simp [plainBounds]; omega)
      · exact isLetter_eq (k := 2) hn (by simp [plainBounds]; omega) (by simp [plainBounds]; omega)
      · exact isLetter_eq (k := 4) hn (by simp [plainBounds]; omega) (by simp [plainBounds]; omega)
      · exact isLetter_eq (k := 6) hn (by simp [plainBounds]; omega) (by simp [plainBounds])
    rw [hfalse] at h
    cases h
  have hall : ∀ n < 0x80, n = 45 ∨ 48 ≤ n ∧ n ≤ 57 ∨ 97 ≤ n ∧ n ≤ 122 → IsWire n := by
    decide +kernel
  exact hall n hn hrange

theorem mem_of_checkLetters {before : List Nat} (h : checkLetters label before codes = .ok ()) :
    ∀ n ∈ codes, isLetter n = true ∨ isJoiner n = true ∨ isBound n = true := by
  induction codes generalizing before with
  | nil => simp
  | cons n after ih =>
    intro m hm
    unfold checkLetters at h
    dsimp only at h
    split at h
    · next hl =>
      rcases List.mem_cons.mp hm with rfl | hm
      · exact .inl hl
      · exact ih h m hm
    · split at h
      · next hj =>
        split at h
        · cases h
        · split at h
          · rcases List.mem_cons.mp hm with rfl | hm
            · exact .inr (.inl hj)
            · exact ih h m hm
          · cases h
      · split at h
        · next hb =>
          split at h
          · rcases List.mem_cons.mp hm with rfl | hm
            · exact .inr (.inr hb)
            · exact ih h m hm
          · cases h
        · cases h

theorem checkLetters_of_checkLabel (h : checkLabel label = .ok ()) :
    checkLetters label [] label = .ok () := by
  unfold checkLabel at h
  iterate 6
    split at h
    · cases h
  cases hl : checkLetters label [] label with
  | error e =>
    rw [hl] at h
    cases h
  | ok _ => rfl

/-- The plain characters of a label that passes stand on the wire as they are. -/
theorem isWire_of_checkLabel (h : checkLabel label = .ok ()) (hmem : n ∈ label) (hn : n < 0x80) :
    IsWire n := by
  have hforeign : ∀ n < 0x80, isJoiner n = false ∧ isBound n = false := by decide
  obtain ⟨hjoiner, hbound⟩ := hforeign n hn
  have hsorts := mem_of_checkLetters (checkLetters_of_checkLabel h) n hmem
  rw [hjoiner, hbound] at hsorts
  exact isWire_of_isLetter hn (by simpa using hsorts)

theorem isWire_of_mem_encode (h : checkLabel label = .ok ()) :
    ∀ d ∈ Punycode.encode label, IsWire d :=
  Punycode.mem_encode (by decide) (by decide) fun _ => isWire_of_checkLabel h

theorem isWire_of_mem_wireMark : ∀ n ∈ wireMark, IsWire n := by decide

theorem isWire_lowerCode_of_checkWire (h : checkWire label = .ok ()) (hmem : n ∈ label)
    (hn : lowerCode n < 0x80) : IsWire (lowerCode n) := by
  have hlower : lowerCode n ∈ label.map lowerCode := List.mem_map_of_mem hmem
  unfold checkWire at h
  dsimp only at h
  split at h
  · next hmark =>
    obtain ⟨code, hcode⟩ := List.isPrefixOf_iff_prefix.mp hmark
    rw [← hcode, List.drop_left] at h
    split at h
    · cases h
    · split at h
      · cases h
      · split at h
        · next l _ =>
          split at h
          · next henc =>
            rw [← hcode, ← beq_iff_eq.mp henc] at hlower
            rcases List.mem_append.mp hlower with hm | hm
            · exact isWire_of_mem_wireMark _ hm
            · exact isWire_of_mem_encode h _ hm
          · cases h
        · cases h
  · exact isWire_of_checkLabel h hlower hn

theorem isWire_of_isWire_lowerCode : ∀ n < 0x80, IsWire (lowerCode n) → IsWire n := by
  decide +kernel

theorem lowerCode_plain : ∀ n < 0x80, lowerCode n < 0x80 := by decide +kernel

theorem wireLabel_eq_ok (h : wireLabel label = .ok codes) :
    (checkWire label = .ok () ∧ codes = label ∧ ∀ n ∈ label, n < 0x80) ∨
      (checkLabel label = .ok () ∧ codes = wireMark ++ Punycode.encode label) := by
  unfold wireLabel at h
  dsimp only at h
  split at h
  · next hplain =>
    obtain ⟨⟨⟩, hcheck, h⟩ := bind_eq_ok_iff.mp h
    refine .inl ⟨hcheck, ?_, fun n hn => of_decide_eq_true (List.all_eq_true.mp hplain n hn)⟩
    split at h
    · cases h
    · cases h
      rfl
  · next hplain =>
    obtain ⟨⟨⟩, hcheck, h⟩ := bind_eq_ok_iff.mp h
    refine .inr ⟨hcheck, ?_⟩
    split at h
    · cases h
    · cases h
      rfl

theorem isWire_of_wireLabel (h : wireLabel label = .ok codes) : ∀ n ∈ codes, IsWire n := by
  rcases wireLabel_eq_ok h with ⟨hcheck, rfl, hplain⟩ | ⟨hcheck, rfl⟩
  · intro n hmem
    have hn := hplain n hmem
    exact isWire_of_isWire_lowerCode n hn
      (isWire_lowerCode_of_checkWire hcheck hmem (lowerCode_plain n hn))
  · intro n hmem
    rcases List.mem_append.mp hmem with hm | hm
    · exact isWire_of_mem_wireMark n hm
    · exact isWire_of_mem_encode hcheck n hm

/-- A name on the wire is made of its labels and the dots between them. -/
theorem isWire_of_wireName {name : List Nat} (h : wireName name = .ok codes) :
    ∀ n ∈ codes, IsWire n := by
  unfold wireName at h
  obtain ⟨⟨ls, dotted⟩, -, h⟩ := bind_eq_ok_iff.mp h
  obtain ⟨wires, hwires, h⟩ := bind_eq_ok_iff.mp h
  dsimp only at h
  generalize hend : (if dotted then [[]] else []) = last at h
  have hlast : ∀ l ∈ last, l = [] := by
    rw [← hend]
    cases dotted <;> simp
  split at h
  · cases h
  · cases h
    intro n hn
    rcases mem_intercalate hn with rfl | ⟨l, hl, hn⟩
    · decide
    · rcases List.mem_append.mp hl with hl | hl
      · obtain ⟨label, -, hlabel⟩ := exists_of_mem_mapM hwires hl
        exact isWire_of_wireLabel hlabel n hn
      · rw [hlast l hl] at hn
        cases hn

end AlertRelay.Url
