import AlertRelay.Number.Reading
import AlertRelay.Text.Digit
import Mathlib.Data.List.Induction

/-!
Decimal digits and the numbers they stand for.
-/

namespace AlertRelay.Number

open AlertRelay.Text

theorem powTen_le_powTen {m n : Nat} (h : m ≤ n) : powTen m ≤ powTen n :=
  Nat.pow_le_pow_right (by decide) h

theorem length_natDigits_le_iff (n : Nat) {k : Nat} (hk : 0 < k) :
    (natDigits n).length ≤ k ↔ n < powTen k :=
  Nat.length_toDigits_le_iff (by decide) hk

theorem digitValue?_of_isDigit {c : Char} (h : c.isDigit = true) :
    digitValue? c = some (c.toNat - 48) := by
  rw [Char.isDigit, Bool.and_eq_true, decide_eq_true_eq, decide_eq_true_eq] at h
  have h₁ : 48 ≤ c.toNat := h.1
  have h₂ : c.toNat ≤ 57 := h.2
  rw [digitValue?, zeros, List.find?_cons_of_pos]
  · rfl
  · rw [Bool.and_eq_true, decide_eq_true_eq, decide_eq_true_eq]
    omega

theorem isDigit_of_isDigit {c : Char} (h : c.isDigit = true) : isDigit c = true := by
  rw [isDigit, digitValue?_of_isDigit h]
  rfl

theorem digitsValue_eq_ofDigitChars {cs : List Char} (h : ∀ c ∈ cs, c.isDigit = true) :
    digitsValue cs = Nat.ofDigitChars 10 cs 0 := by
  have from_any (k : Nat) : cs.foldl (fun n c => 10 * n + (digitValue? c).getD 0) k =
      Nat.ofDigitChars 10 cs k := by
    induction cs generalizing k with
    | nil => rfl
    | cons c cs ih =>
      rw [List.foldl_cons, digitValue?_of_isDigit (h c (List.mem_cons_self ..))]
      exact ih (fun c hc => h c (List.mem_cons_of_mem _ hc)) _
  exact from_any 0

theorem natDigits_ne_nil (n : Nat) : natDigits n ≠ [] := Nat.toDigits_ne_nil

theorem isDigit_natDigits {n : Nat} : ∀ c ∈ natDigits n, c.isDigit = true :=
  fun _ hc => Nat.isDigit_of_mem_toDigits (by decide) (by decide) hc

theorem takeSign_of_isDigit {c : Char} (h : c.isDigit = true) (cs : List Char) :
    Double.takeSign (c :: cs) = (false, c :: cs) := by
  unfold Double.takeSign
  split
  · next he => cases he; cases h
  · next he => cases he; cases h
  · rfl

theorem digitsValue_natDigits (n : Nat) : digitsValue (natDigits n) = n := by
  rw [digitsValue_eq_ofDigitChars isDigit_natDigits]
  exact Nat.ofDigitChars_toDigits (by decide) (by decide)

theorem digitValue?_lt {c : Char} {v : Nat} (h : digitValue? c = some v) : v < 10 := by
  obtain ⟨z, hz, rfl⟩ := Option.map_eq_some_iff.mp h
  have hrange := List.find?_some hz
  simp only [Bool.and_eq_true, decide_eq_true_eq] at hrange
  omega

theorem digitsValue_lt (ds : List Char) : digitsValue ds < powTen ds.length := by
  -- The value is built up from the left, so digits are taken off at the right.
  induction ds using List.reverseRecOn with
  | nil => decide
  | append_singleton ds c ih =>
    have hc : (digitValue? c).getD 0 < 10 := by
      cases hv : digitValue? c with
      | none => decide
      | some v => exact digitValue?_lt hv
    have hvalue : digitsValue (ds ++ [c]) = 10 * digitsValue ds + (digitValue? c).getD 0 := by
      rw [digitsValue, List.foldl_append]
      rfl
    have hpow : powTen (ds ++ [c]).length = 10 * powTen ds.length := by
      rw [List.length_append, powTen, powTen]
      exact Nat.pow_succ'
    omega

end AlertRelay.Number
