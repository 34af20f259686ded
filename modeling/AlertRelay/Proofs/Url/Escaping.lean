import AlertRelay.Url.Escape
import Mathlib.Tactic.ByContra

/-!
What escaping leaves: characters that may stay, so that a part that was escaped once is not
changed by escaping it again.
-/

namespace AlertRelay.Url

open AlertRelay.Text

/-- A character that stays as it is in a part of a URL. -/
def Kept (safe : Char → Bool) (c : Char) : Prop := isUnreserved c = true ∨ safe c = true

instance (safe : Char → Bool) (c : Char) : Decidable (Kept safe c) :=
  inferInstanceAs (Decidable (_ ∨ _))

variable {safe : Char → Bool} {c : Char} {cs : List Char}

theorem escapeChar_of_kept (h : Kept safe c) : escapeChar safe c = [c] :=
  if_pos (by simpa [Kept] using h)

theorem escapeChar_of_not_kept (h : ¬ Kept safe c) : escapeChar safe c = percent c :=
  if_neg (by simpa [Kept] using h)

theorem isAlphanum_iff : c.isAlphanum = true ↔
    (65 ≤ c.toNat ∧ c.toNat ≤ 90 ∨ 97 ≤ c.toNat ∧ c.toNat ≤ 122) ∨
      48 ≤ c.toNat ∧ c.toNat ≤ 57 := by
  have hand {p q : Prop} [Decidable p] [Decidable q] : (decide p && decide q) = true ↔ p ∧ q := by
    rw [Bool.and_eq_true, decide_eq_true_iff, decide_eq_true_iff]
  have hupper : c.isUpper = true ↔ 65 ≤ c.toNat ∧ c.toNat ≤ 90 := decide_eq_true_iff
  have hlower : c.isLower = true ↔ 97 ≤ c.toNat ∧ c.toNat ≤ 122 := hand
  have hdigit : c.isDigit = true ↔ 48 ≤ c.toNat ∧ c.toNat ≤ 57 := hand
  rw [← hupper, ← hlower, ← hdigit, ← Bool.or_eq_true, ← Bool.or_eq_true]
  rfl

theorem isUnreserved_of_isAlphanum (h : c.isAlphanum = true) : isUnreserved c = true := by
  simp [isUnreserved, h]

theorem isUnreserved_of_isHex (h : isHex c = true) : isUnreserved c = true := by
  refine isUnreserved_of_isAlphanum (isAlphanum_iff.mpr ?_)
  simp [isHex, Char.isDigit, Char.le_def, UInt32.le_iff_toNat_le] at h
  omega

theorem isHex_toUpper_digitChar : ∀ d < 16, isHex (Nat.digitChar d).toUpper = true := by decide

theorem mem_percent {a : Char} (h : a ∈ percent c) : a = '%' ∨ isHex a = true := by
  obtain ⟨b, -, ha⟩ := List.mem_flatMap.mp h
  rcases List.mem_cons.mp ha with rfl | ha
  · exact .inl rfl
  · obtain ⟨d, hd, rfl⟩ := List.mem_map.mp ha
    have hdigits : d = Nat.digitChar (b / 16 % 16) ∨ d = Nat.digitChar (b % 16) := by
      simpa [hex] using hd
    rcases hdigits with rfl | rfl <;>
      exact .inr (isHex_toUpper_digitChar _ (Nat.mod_lt _ (by decide)))

theorem percent_mem_percent (c : Char) : '%' ∈ percent c := by
  have hne : String.utf8EncodeChar c ≠ [] := List.ne_nil_of_length_pos (by
    rw [String.length_utf8EncodeChar]
    exact c.utf8Size_pos)
  obtain ⟨b, bs, hb⟩ := List.exists_cons_of_ne_nil hne
  simp [percent, Utf8.encode, hb]

/-- A set of characters that may stay: printable ones, and the sign of escapes among them. -/
structure IsSafeSet (safe : Char → Bool) : Prop where
  sign : safe '%' = true
  printable : ∀ c, safe c = true → 0x20 ≤ c.toNat ∧ c.toNat < 0x7F

theorem isSafeSet_printableBut {except : String} (h : '%' ∉ except.toList) :
    IsSafeSet (printableBut except) where
  sign := by simp [printableBut, h]
  printable c hc := by
    simp only [printableBut, Bool.and_eq_true, decide_eq_true_eq] at hc
    exact hc.1

theorem isSafeSet_userSafe : IsSafeSet userSafe := isSafeSet_printableBut (by decide)

theorem isSafeSet_pathSafe : IsSafeSet pathSafe := isSafeSet_printableBut (by decide)

theorem isSafeSet_querySafe : IsSafeSet querySafe := isSafeSet_printableBut (by decide)

theorem isSafeSet_fragmentSafe : IsSafeSet fragmentSafe := isSafeSet_printableBut (by decide)

theorem isSafeSet_hostSafe : IsSafeSet hostSafe where
  sign := by decide
  printable c hc := by
    have hall := List.all_eq_true.mp (by decide : ("!$&'()*+,;=\"\x60\x7b\x7d%|\\".toList.all
      fun c => 0x20 ≤ c.toNat && c.toNat < 0x7F) = true) c (List.contains_iff_mem.mp hc)
    simpa using hall

theorem printable_of_isUnreserved (h : isUnreserved c = true) :
    0x20 ≤ c.toNat ∧ c.toNat < 0x7F := by
  simp only [isUnreserved, Bool.or_eq_true, beq_iff_eq, isAlphanum_iff] at h
  rcases h with (((h | rfl) | rfl) | rfl) | rfl
  · omega
  all_goals decide

namespace IsSafeSet

variable (hs : IsSafeSet safe)

include hs

theorem printable_of_kept (h : Kept safe c) : 0x20 ≤ c.toNat ∧ c.toNat < 0x7F :=
  h.elim printable_of_isUnreserved (hs.printable c)

/-- Where the sign of escapes may stay, escapes that are there already need no notice. -/
theorem escape_eq_flatMap (cs : List Char) : escape safe cs = cs.flatMap (escapeChar safe) := by
  have hsign : escapeChar safe '%' = ['%'] := escapeChar_of_kept (.inr hs.sign)
  fun_induction escape safe cs with
  | case1 => rfl
  | case2 a b rest hab ih =>
    rw [Bool.and_eq_true] at hab
    have ha : escapeChar safe a = [a] := escapeChar_of_kept (.inl (isUnreserved_of_isHex hab.1))
    have hb : escapeChar safe b = [b] := escapeChar_of_kept (.inl (isUnreserved_of_isHex hab.2))
    simp [List.flatMap_cons, hsign, ha, hb, ih]
  | case3 a b rest hab ih =>
    rw [ih]
    rfl
  | case4 c rest hc ih => rw [ih, List.flatMap_cons]

theorem kept_of_mem_escape {a : Char} (h : a ∈ escape safe cs) : Kept safe a := by
  rw [hs.escape_eq_flatMap] at h
  obtain ⟨c, -, ha⟩ := List.mem_flatMap.mp h
  by_cases hc : Kept safe c
  · rw [escapeChar_of_kept hc, List.mem_singleton] at ha
    exact ha ▸ hc
  · rw [escapeChar_of_not_kept hc] at ha
    rcases mem_percent ha with rfl | ha
    · exact .inr hs.sign
    · exact .inl (isUnreserved_of_isHex ha)

theorem escape_of_kept (h : ∀ c ∈ cs, Kept safe c) : escape safe cs = cs := by
  rw [hs.escape_eq_flatMap]
  induction cs with
  | nil => rfl
  | cons c cs ih =>
    rw [List.flatMap_cons, escapeChar_of_kept (h c List.mem_cons_self),
      ih fun a ha => h a (List.mem_cons_of_mem c ha)]
    rfl

theorem escape_escape (cs : List Char) : escape safe (escape safe cs) = escape safe cs :=
  hs.escape_of_kept fun _ => hs.kept_of_mem_escape

/-- Every escape begins with the sign, so that a part without it has none. -/
theorem escape_eq_self (h : '%' ∉ escape safe cs) : escape safe cs = cs := by
  refine hs.escape_of_kept fun c hc => by_contra fun hk => h ?_
  rw [hs.escape_eq_flatMap]
  exact List.mem_flatMap.mpr ⟨c, hc, escapeChar_of_not_kept hk ▸ percent_mem_percent c⟩

end IsSafeSet

end AlertRelay.Url
