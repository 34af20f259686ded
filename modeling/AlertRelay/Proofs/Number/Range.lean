import AlertRelay.Number.Double

/-!
The integers that a number of the binary format can stand for: those that are rounded to no more
than the greatest number.
-/

namespace AlertRelay.Number

theorem powTwo_add (m n : Nat) : powTwo (m + n) = powTwo m * powTwo n := Nat.pow_add 2 m n

theorem powTwo_succ (n : Nat) : powTwo (n + 1) = 2 * powTwo n := Nat.pow_succ'

theorem powTwo_pos (n : Nat) : 0 < powTwo n := Nat.two_pow_pos n

namespace Double

/-- The first positive integer that is rounded beyond the greatest number, halfway between that and
the power of two behind it. -/
def rangeBound : Nat := powTwo 1024 - powTwo 970

variable {n : Nat}

theorem powTwo_log2_le (hn : n ≠ 0) : powTwo n.log2 ≤ n := Nat.log2_self_le hn

theorem lt_powTwo_log2 : n < powTwo (n.log2 + 1) := Nat.lt_log2_self

/-- The whole part has 53 bits where the exponent is 52 below that of the first bit. -/
theorem exponentFor_one (hn : n ≠ 0) : exponentFor n 1 = (n.log2 : Int) - 52 := by
  have hlow := powTwo_log2_le hn
  have hlog : Nat.log2 1 = 0 := by decide
  have hmax : max leastExponent ((n.log2 : Int) - (0 : Nat) - 53) = (n.log2 : Int) - 53 := by
    unfold leastExponent
    omega
  unfold exponentFor
  rw [hlog, hmax]
  have hlarge : ¬ (scaled n 1 ((n.log2 : Int) - 53)).1 / (scaled n 1 ((n.log2 : Int) - 53)).2 <
      powTwo 53 := by
    rw [Nat.not_lt]
    unfold scaled
    split
    · next h =>
      have he : 53 + ((n.log2 : Int) - 53).toNat = n.log2 := by omega
      rw [Nat.one_mul, Nat.le_div_iff_mul_le (powTwo_pos _), ← powTwo_add, he]
      exact hlow
    · next h =>
      have he : 53 = n.log2 + (-((n.log2 : Int) - 53)).toNat := by omega
      rw [Nat.div_one, he, powTwo_add]
      exact Nat.mul_le_mul_right _ hlow
  dsimp only
  rw [if_neg hlarge]
  omega

/-- A quotient below a power of two is rounded to that power if it is no less than halfway from the
number before it. -/
theorem roundDiv_eq_iff {num half : Nat} (h : num < powTwo 53 * (2 * half)) :
    roundDiv num (2 * half) = powTwo 53 ↔ powTwo 53 * (2 * half) ≤ num + half := by
  have hdiv := Nat.div_add_mod num (2 * half)
  have hhalf : 0 < 2 * half := Nat.pos_of_ne_zero fun he => by simp [he] at h
  have hmod := Nat.mod_lt num hhalf
  have hquot : num / (2 * half) < powTwo 53 := (Nat.div_lt_iff_lt_mul hhalf).mpr h
  have hpower : powTwo 53 = 9007199254740992 := rfl
  rw [hpower] at h hquot ⊢
  unfold roundDiv
  dsimp only
  generalize num / (2 * half) = q at *
  generalize num % (2 * half) = r at *
  by_cases hq : q = 9007199254740991
  · subst hq
    split
    · next hup =>
      simp only [Bool.or_eq_true, decide_eq_true_eq, Bool.and_eq_true, beq_iff_eq,
        and_true] at hup
      omega
    · next hdown =>
      simp only [Bool.or_eq_true, decide_eq_true_eq, Bool.and_eq_true, beq_iff_eq,
        and_true] at hdown
      omega
  · have hless : 2 * half * (q + 2) ≤ 2 * half * 9007199254740992 :=
      Nat.mul_le_mul_left _ (by omega)
    have hexpand : 2 * half * (q + 2) = 2 * half * q + 4 * half := by
      rw [Nat.mul_add]
      omega
    split <;> omega

/-- The exponent that a positive integer gets: the one for its first bit, or one more where it is
rounded up to the next power of two. -/
def exponentOf (n : Nat) : Int :=
  let e := (n.log2 : Int) - 52
  if roundDiv (scaled n 1 e).1 (scaled n 1 e).2 = powTwo 53 then e + 1 else e

theorem ofRatio_one (negative : Bool) (hn : n ≠ 0) :
    (∃ m, ofRatio negative n 1 = .finite negative m (exponentOf n)) ∧
        exponentOf n ≤ greatestExponent ∨
      ofRatio negative n 1 = .infinite negative ∧ greatestExponent < exponentOf n := by
  unfold ofRatio exponentOf
  rw [if_neg (by simpa using hn), exponentFor_one hn]
  dsimp only
  by_cases hm : roundDiv (scaled n 1 ((n.log2 : Int) - 52)).1
      (scaled n 1 ((n.log2 : Int) - 52)).2 = powTwo 53
  · simp only [hm, beq_self_eq_true, if_true]
    split
    · next h => exact .inr ⟨rfl, h⟩
    · next h => exact .inl ⟨⟨_, rfl⟩, Int.not_lt.mp h⟩
  · simp only [beq_iff_eq, hm, if_false]
    split
    · next h => exact .inr ⟨rfl, h⟩
    · next h => exact .inl ⟨⟨_, rfl⟩, Int.not_lt.mp h⟩

theorem exponentOf_le_iff (hn : n ≠ 0) : exponentOf n ≤ greatestExponent ↔ n < rangeBound := by
  have hlow := powTwo_log2_le hn
  have hhigh := lt_powTwo_log2 (n := n)
  have hhalf := powTwo_pos 970
  have hdouble : powTwo 971 = 2 * powTwo 970 := powTwo_succ 970
  have htop : powTwo 1024 = powTwo 53 * powTwo 971 := powTwo_add 53 971
  have hbound : n < rangeBound ↔ n + powTwo 970 < powTwo 1024 := by
    unfold rangeBound
    omega
  have hgrow {i j : Nat} (h : i ≤ j) : powTwo i ≤ powTwo j := Nat.pow_le_pow_right (by decide) h
  have hprev : powTwo 1024 = 2 * powTwo 1023 := powTwo_succ 1023
  rw [hbound]
  unfold exponentOf greatestExponent
  dsimp only
  rcases Nat.lt_trichotomy n.log2 1023 with hlog | hlog | hlog
  · -- Even if it is rounded up, the integer stays below the last power of two.
    have hn : n < powTwo 1023 := Nat.lt_of_lt_of_le hhigh (hgrow hlog)
    have hless : powTwo 970 ≤ powTwo 1023 := hgrow (by decide)
    refine iff_of_true ?_ (by omega)
    split <;> omega
  · have hn : n < powTwo 53 * (2 * powTwo 970) := by
      rw [← hdouble, ← htop]
      rw [hlog] at hhigh
      exact hhigh
    have hscaled : scaled n 1 ((n.log2 : Int) - 52) = (n, 2 * powTwo 970) := by
      rw [hlog, ← hdouble, scaled, if_pos (by decide), Nat.one_mul]
      rfl
    have hround := roundDiv_eq_iff hn
    rw [hscaled]
    dsimp only
    rw [htop, hdouble]
    split
    · next hup => exact iff_of_false (by omega) (Nat.not_lt.mpr (hround.mp hup))
    · next hdown => exact iff_of_true (by omega) (Nat.not_le.mp fun h => hdown (hround.mpr h))
  · have hn : powTwo 1024 ≤ n := Nat.le_trans (hgrow hlog) hlow
    refine iff_of_false ?_ (by omega)
    split <;> omega

/-- The integers that have a nearest number are those below the bound. -/
theorem isSome_ofInt?_iff {n : Int} : (ofInt? n).isSome = true ↔ n.natAbs < rangeBound := by
  by_cases hn : n.natAbs = 0
  · have hzero : ofInt? n = some (zero (decide (n < 0))) := by
      unfold ofInt? ofRatio
      rw [hn]
      rfl
    have hpos : 0 < rangeBound := by decide +kernel
    rw [hzero, hn]
    exact iff_of_true rfl hpos
  · rw [← exponentOf_le_iff hn]
    unfold ofInt?
    rcases ofRatio_one (decide (n < 0)) hn with ⟨⟨m, hm⟩, he⟩ | ⟨hinf, he⟩
    · rw [hm]
      exact iff_of_true rfl he
    · rw [hinf]
      exact iff_of_false nofun (Int.not_le.mpr he)

end Double

end AlertRelay.Number
