import AlertRelay.Proofs.Text.Utf8
import AlertRelay.Text.Base64

/-!
Bytes in Base 64 can be read again, and take four characters for every three of them that there are
or are begun.
-/

namespace AlertRelay.Text.Base64

theorem value?_letter {n : Nat} (h : n < 64) :
    value? (letter n) = some n ∧ letter n ≠ '=' := by
  have hall : ∀ n < 64, value? (letter n) = some n ∧ letter n ≠ '=' := by decide
  exact hall n h

theorem sixes_letter {n : Nat} (h : n < 64) (place pads : Nat) (rest : List Char) :
    sixes place pads (letter n :: rest) =
      (n :: (sixes ((place + 1) % 4) 0 rest).1, (sixes ((place + 1) % 4) 0 rest).2) := by
  obtain ⟨hvalue, hne⟩ := value?_letter h
  rw [sixes, if_neg (by simpa using hne), hvalue]

/-- Sixes of bits that stand for some bytes: they are in whole groups, or have an end. -/
structure Stand (bytes : List Nat) (r : List Nat × Bool) : Prop where
  bytes : bytesOfSixes r.1 = bytes
  whole : r.2 = true ∨ r.1.length % 4 = 0

theorem stand_encode {bytes : List Nat} (h : ∀ b ∈ bytes, b < 256) :
    Stand bytes (sixes 0 0 (encode bytes)) := by
  fun_induction encode bytes with
  | case1 => exact ⟨rfl, .inr rfl⟩
  | case2 a =>
    have ha : a < 256 := h a (by simp)
    rw [sixes_letter (by omega), sixes_letter (by omega)]
    refine ⟨?_, .inl rfl⟩
    change [4 * (a / 4) + a % 4 * 16 / 16] = [a]
    congr 1
    omega
  | case3 a b =>
    have ha : a < 256 := h a (by simp)
    have hb : b < 256 := h b (by simp)
    rw [sixes_letter (by omega), sixes_letter (by omega), sixes_letter (by omega)]
    refine ⟨?_, .inl rfl⟩
    change [4 * (a / 4) + (a % 4 * 16 + b / 16) / 16,
      16 * ((a % 4 * 16 + b / 16) % 16) + b % 16 * 4 / 4] = [a, b]
    congr 1
    · omega
    · congr 1
      omega
  | case4 a b c rest ih =>
    have ha : a < 256 := h a (by simp)
    have hb : b < 256 := h b (by simp)
    have hc : c < 256 := h c (by simp)
    obtain ⟨hbytes, hwhole⟩ := ih fun x hx => h x (by simp [hx])
    have hgroup : ((((0 + 1) % 4 + 1) % 4 + 1) % 4 + 1) % 4 = 0 := rfl
    rw [sixes_letter (by omega), sixes_letter (by omega), sixes_letter (by omega),
      sixes_letter (by omega), hgroup]
    refine ⟨?_, hwhole.imp_right fun hw => ?_⟩
    · rw [bytesOfSixes, hbytes]
      congr 1
      · omega
      · congr 1
        · omega
        · congr 1
          omega
    · simp only [List.length_cons]
      omega

theorem decode?_encode {bytes : List Nat} (h : ∀ b ∈ bytes, b < 256) :
    decode? (encode bytes) = some bytes := by
  obtain ⟨hbytes, hwhole⟩ := stand_encode h
  unfold decode?
  dsimp only
  rw [hbytes, if_neg]
  obtain hended | hlength := hwhole
  · simp [hended]
  · simp [hlength]

theorem length_encode (bytes : List Nat) :
    (encode bytes).length = 4 * ((bytes.length + 2) / 3) := by
  fun_induction encode bytes with
  | case1 => rfl
  | case2 => simp
  | case3 => simp
  | case4 a b c rest ih =>
    simp only [List.length_cons, ih]
    omega

end AlertRelay.Text.Base64
