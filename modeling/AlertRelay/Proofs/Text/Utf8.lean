import AlertRelay.Text.Utf8

/-!
The bytes of a text are well formed, and reading them gives the text back.
-/

namespace AlertRelay.Text.Utf8

/-- The bytes of a code point, one to four of them. -/
inductive Spells (v : Nat) : List Nat → Prop
  | one : v ≤ 0x7F → Spells v [v]
  | two : 0x7F < v → v ≤ 0x7FF → Spells v [0xC0 + v / 64, 0x80 + v % 64]
  | three : 0x7FF < v → v ≤ 0xFFFF →
      Spells v [0xE0 + v / 4096, 0x80 + v / 64 % 64, 0x80 + v % 64]
  | four : 0xFFFF < v →
      Spells v [0xF0 + v / 262144, 0x80 + v / 4096 % 64, 0x80 + v / 64 % 64, 0x80 + v % 64]

theorem spells_char (c : Char) : Spells c.toNat ((String.utf8EncodeChar c).map UInt8.toNat) := by
  have hv : c.toNat < 0xD800 ∨ 0xDFFF < c.toNat ∧ c.toNat < 0x110000 := c.valid
  have hbyte {n m : Nat} (h : n = m) (hm : m < 256) : (UInt8.ofNat n).toNat = m := by
    rw [h]
    exact UInt8.toNat_ofNat_of_lt hm
  simp only [String.utf8EncodeChar, Char.toNat_val]
  split
  · next h1 =>
    rw [List.map_singleton, hbyte rfl (by omega)]
    exact .one h1
  · next h1 =>
    split
    · next h2 =>
      rw [List.map_cons, List.map_singleton, @hbyte _ (0xC0 + c.toNat / 64) (by omega) (by omega),
        @hbyte _ (0x80 + c.toNat % 64) (by omega) (by omega)]
      exact .two (by omega) h2
    · next h2 =>
      split
      · next h3 =>
        rw [List.map_cons, List.map_cons, List.map_singleton,
          @hbyte _ (0xE0 + c.toNat / 4096) (by omega) (by omega),
          @hbyte _ (0x80 + c.toNat / 64 % 64) (by omega) (by omega),
          @hbyte _ (0x80 + c.toNat % 64) (by omega) (by omega)]
        exact .three (by omega) h3
      · next h3 =>
        rw [List.map_cons, List.map_cons, List.map_cons, List.map_singleton,
          @hbyte _ (0xF0 + c.toNat / 262144) (by omega) (by omega),
          @hbyte _ (0x80 + c.toNat / 4096 % 64) (by omega) (by omega),
          @hbyte _ (0x80 + c.toNat / 64 % 64) (by omega) (by omega),
          @hbyte _ (0x80 + c.toNat % 64) (by omega) (by omega)]
        exact .four (by omega)

/-!
Reading.
-/

theorem step_last {low high code b : Nat} (hl : low ≤ b) (hh : b ≤ high) :
    step b (.within ⟨1, low, high, code⟩) =
      ([Char.ofNat (64 * code + (b - 0x80))], .between) := by
  simp [step, hl, hh]

theorem step_more {n low high code b : Nat} (hl : low ≤ b) (hh : b ≤ high) :
    step b (.within ⟨n + 2, low, high, code⟩) =
      ([], .within ⟨n + 1, 0x80, 0xBF, 64 * code + (b - 0x80)⟩) := by
  simp [step, hl, hh]

theorem first_one {b : Nat} (h : b ≤ 0x7F) : first b = ([Char.ofNat b], .between) :=
  if_pos (Nat.lt_succ_of_le h)

theorem first_two {b : Nat} (hl : 0xC2 ≤ b) (hh : b ≤ 0xDF) :
    first b = ([], .within ⟨1, 0x80, 0xBF, b - 0xC0⟩) := by
  have hb : ¬ b < 0x80 := by omega
  simp [first, hb, hl, hh]

/-- The second of three bytes is bounded by what the first one allows for. -/
theorem first_three {b : Nat} (hl : 0xE0 ≤ b) (hh : b ≤ 0xEF) : ∃ low high,
    first b = ([], .within ⟨2, low, high, b - 0xE0⟩) ∧
      low ≤ 0xA0 ∧ (b ≠ 0xE0 → low = 0x80) ∧ 0x9F ≤ high ∧ (b ≠ 0xED → high = 0xBF) := by
  have hone : ¬ b < 0x80 := by omega
  have htwo : ¬ b ≤ 0xDF := by omega
  by_cases hE0 : b = 0xE0
  · subst hE0
    exact ⟨0xA0, 0xBF, rfl, by decide⟩
  · by_cases hED : b = 0xED
    · subst hED
      exact ⟨0x80, 0x9F, rfl, by decide⟩
    · have hE1 : 0xE1 ≤ b := by omega
      refine ⟨0x80, 0xBF, ?_, by omega⟩
      simp [first, hone, htwo, hE0, hED, hE1, hh]

theorem first_four {b : Nat} (hl : 0xF0 ≤ b) (hh : b ≤ 0xF4) : ∃ low high,
    first b = ([], .within ⟨3, low, high, b - 0xF0⟩) ∧
      low ≤ 0x90 ∧ (b ≠ 0xF0 → low = 0x80) ∧ 0x8F ≤ high ∧ (b ≠ 0xF4 → high = 0xBF) := by
  obtain rfl | rfl | rfl | rfl | rfl : b = 0xF0 ∨ b = 0xF1 ∨ b = 0xF2 ∨ b = 0xF3 ∨ b = 0xF4 := by
    omega
  · exact ⟨0x90, 0xBF, rfl, by decide⟩
  · exact ⟨0x80, 0xBF, rfl, by decide⟩
  · exact ⟨0x80, 0xBF, rfl, by decide⟩
  · exact ⟨0x80, 0xBF, rfl, by decide⟩
  · exact ⟨0x80, 0x8F, rfl, by decide⟩

theorem decodeFrom_cons (b : Nat) (bs : List Nat) (s : State) :
    decodeFrom s (b :: bs) = (step b s).1 ++ decodeFrom (step b s).2 bs := rfl

theorem Spells.decodeFrom_append {c : Char} {bs : List Nat} (h : Spells c.toNat bs)
    (rest : List Nat) : decodeFrom .between (bs ++ rest) = c :: decodeFrom .between rest := by
  have hv : c.toNat < 0xD800 ∨ 0xDFFF < c.toNat ∧ c.toNat < 0x110000 := c.valid
  have hc {n : Nat} (hn : n = c.toNat) : Char.ofNat n = c := by
    rw [hn, Char.ofNat_toNat]
  cases h with
  | one h =>
    rw [List.cons_append, decodeFrom_cons, step, first_one h, hc rfl]
    rfl
  | two h h' =>
    rw [List.cons_append, List.cons_append, decodeFrom_cons, step,
      first_two (by omega) (by omega), decodeFrom_cons, step_last (by omega) (by omega),
      hc (by omega)]
    rfl
  | three h h' =>
    -- Where the first byte narrows the second one, it is the code point that does.
    obtain ⟨low, high, hfirst, hlow, hlow', hhigh, hhigh'⟩ :=
      @first_three (0xE0 + c.toNat / 4096) (by omega) (by omega)
    rw [List.cons_append, List.cons_append, List.cons_append, decodeFrom_cons, step, hfirst,
      decodeFrom_cons, step_more (by omega) (by omega),
      decodeFrom_cons, step_last (by omega) (by omega), hc (by omega)]
    rfl
  | four h =>
    obtain ⟨low, high, hfirst, hlow, hlow', hhigh, hhigh'⟩ :=
      @first_four (0xF0 + c.toNat / 262144) (by omega) (by omega)
    rw [List.cons_append, List.cons_append, List.cons_append, List.cons_append, decodeFrom_cons,
      step, hfirst, decodeFrom_cons, step_more (by omega) (by omega), decodeFrom_cons,
      step_more (by omega) (by omega), decodeFrom_cons, step_last (by omega) (by omega),
      hc (by omega)]
    rfl

theorem decode_encode (cs : List Char) : decode (encode cs) = cs := by
  unfold decode encode
  induction cs with
  | nil => rfl
  | cons c cs ih => rw [List.flatMap_cons, (spells_char c).decodeFrom_append, ih]

theorem decode?_encode (cs : List Char) : decode? (encode cs) = some cs := by
  unfold decode?
  rw [decode_encode]
  exact if_pos (beq_self_eq_true _)

/-- The bytes of a text are well formed. -/
theorem isValidUTF8_encode (cs : List Char) :
    ((encode cs).map UInt8.ofNat).toByteArray.IsValidUTF8 := by
  have hbytes : (encode cs).map UInt8.ofNat = cs.flatMap String.utf8EncodeChar := by
    simp [encode, List.map_flatMap, Function.comp_def]
  rw [hbytes]
  exact .intro cs rfl

theorem encode_injective : Function.Injective encode :=
  Function.LeftInverse.injective decode_encode

end AlertRelay.Text.Utf8
