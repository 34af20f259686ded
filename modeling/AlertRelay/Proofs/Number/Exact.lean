import AlertRelay.Number.Order
import Mathlib.Algebra.Order.Field.Power
import Mathlib.Algebra.Order.Ring.Rat
import Mathlib.Data.Int.Cast.Lemmas
import Mathlib.Order.WithBot

/-!
The exact values of numbers. Comparing two numbers compares these, however large or fine they are.
-/

namespace AlertRelay.Number

/-- Rational numbers, and one end beyond them on either side. -/
abbrev Extended := WithBot (WithTop ℚ)

namespace Extended

def ofRat (q : ℚ) : Extended := ((q : WithTop ℚ) : WithBot (WithTop ℚ))

variable {p q : ℚ}

@[simp] theorem ofRat_lt_ofRat : ofRat p < ofRat q ↔ p < q := by simp [ofRat]

@[simp] theorem ofRat_inj : ofRat p = ofRat q ↔ p = q := by simp [ofRat]

@[simp] theorem bot_lt_ofRat : ⊥ < ofRat q := WithBot.bot_lt_coe _

@[simp] theorem ofRat_lt_top : ofRat q < ⊤ := WithBot.coe_lt_coe.mpr (WithTop.coe_lt_top q)

end Extended

/-- The exact value of a number, unless it is none. -/
def Double.exactValue? : Double → Option Extended
  | .nan => none
  | .infinite true => some ⊥
  | .infinite false => some ⊤
  | .finite true m e => some (.ofRat (-m * 2 ^ e))
  | .finite false m e => some (.ofRat (m * 2 ^ e))

namespace Quantity

def exactValue? : Quantity → Option Extended
  | .whole n => some (.ofRat n)
  | .double x => x.exactValue?

/-- The value of a place on the line. -/
def Place.exactValue? : Place → Option Extended
  | .nowhere => none
  | .below => some ⊥
  | .above => some ⊤
  | .value n e => some (.ofRat (n * 2 ^ e))

variable {n m e f g : Int}

theorem scaled_mul (h : g ≤ e) :
    ((n * Int.ofNat (powTwo (e - g).toNat) : Int) : ℚ) * 2 ^ g = n * 2 ^ e := by
  obtain ⟨k, rfl⟩ := Int.le.dest h
  have hk : (g + (k : Int) - g).toNat = k := by omega
  have hpow : ((Int.ofNat (powTwo k) : Int) : ℚ) = 2 ^ k := by simp [powTwo]
  rw [hk, Int.cast_mul, hpow, zpow_add₀ two_ne_zero, zpow_natCast, mul_assoc, mul_comm (2 ^ k)]

/-- The common multiples stand for the two values. -/
theorem common_mul (n e m f : Int) : ((common n e m f).1 : ℚ) * 2 ^ min e f = n * 2 ^ e ∧
    ((common n e m f).2 : ℚ) * 2 ^ min e f = m * 2 ^ f :=
  ⟨scaled_mul (min_le_left e f), scaled_mul (min_le_right e f)⟩

theorem common_lt_iff :
    (common n e m f).1 < (common n e m f).2 ↔ (n : ℚ) * 2 ^ e < m * 2 ^ f := by
  have hpos : (0 : ℚ) < 2 ^ min e f := zpow_pos two_pos _
  obtain ⟨hfst, hsnd⟩ := common_mul n e m f
  rw [← hfst, ← hsnd, mul_lt_mul_iff_left₀ hpos, Int.cast_lt]

theorem common_eq_iff :
    (common n e m f).1 = (common n e m f).2 ↔ (n : ℚ) * 2 ^ e = m * 2 ^ f := by
  have hpos : (0 : ℚ) < 2 ^ min e f := zpow_pos two_pos _
  obtain ⟨hfst, hsnd⟩ := common_mul n e m f
  rw [← hfst, ← hsnd, mul_left_inj' hpos.ne', Int.cast_inj]

theorem exactValue?_place (a : Quantity) : a.place.exactValue? = a.exactValue? := by
  cases a with
  | whole n => simp [place, Place.exactValue?, exactValue?]
  | double x =>
    cases x with
    | nan => rfl
    | infinite s => cases s <;> rfl
    | finite s m e =>
      cases s <;>
        simp [place, Place.exactValue?, exactValue?, Double.exactValue?, Double.significand]

theorem Place.lt_iff {p q : Place} {x y : Extended} (hp : p.exactValue? = some x)
    (hq : q.exactValue? = some y) : p.lt q = true ↔ x < y := by
  cases p with
  | nowhere => cases hp
  | below | above | value =>
    cases hp
    cases q with
    | nowhere => cases hq
    | below | above | value =>
      cases hq
      simp [Place.lt, common_lt_iff]

theorem Place.eq_iff {p q : Place} {x y : Extended} (hp : p.exactValue? = some x)
    (hq : q.exactValue? = some y) : p.eq q = true ↔ x = y := by
  cases p with
  | nowhere => cases hp
  | below | above | value =>
    cases hp
    cases q with
    | nowhere => cases hq
    | below | above | value =>
      cases hq
      simp [Place.eq, common_eq_iff, ne_of_lt, ne_of_gt]

theorem Place.unordered {p q : Place} (h : p.exactValue? = none ∨ q.exactValue? = none) :
    p.lt q = false ∧ p.eq q = false := by
  cases p with
  | nowhere => exact ⟨rfl, rfl⟩
  | below | above | value =>
    cases q with
    | nowhere => exact ⟨rfl, rfl⟩
    | below | above | value => simp [Place.exactValue?] at h

variable {a b : Quantity} {x y : Extended}

theorem lt_iff (ha : a.exactValue? = some x) (hb : b.exactValue? = some y) :
    a.lt b = true ↔ x < y :=
  Place.lt_iff (a.exactValue?_place.trans ha) (b.exactValue?_place.trans hb)

theorem eq_iff (ha : a.exactValue? = some x) (hb : b.exactValue? = some y) :
    a.eq b = true ↔ x = y :=
  Place.eq_iff (a.exactValue?_place.trans ha) (b.exactValue?_place.trans hb)

/-- What is not a number is neither less than anything nor equal to it. -/
theorem unordered (h : a.exactValue? = none ∨ b.exactValue? = none) :
    a.lt b = false ∧ a.eq b = false :=
  Place.unordered (by simpa only [exactValue?_place] using h)

end Quantity

end AlertRelay.Number
