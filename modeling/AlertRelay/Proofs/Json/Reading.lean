import AlertRelay.Json.Reader
import Mathlib.Tactic.ByContra

/-!
Texts that are written in quotes are read back as they were.
-/

namespace AlertRelay.Json

open AlertRelay.Text

/-!
The units of a text.
-/

/-- A unit read before others. -/
def withUnit (n : Nat) (x : Option (List Nat × List Char)) : Option (List Nat × List Char) :=
  x.map fun p => (n :: p.1, p.2)

theorem readUnits_escaped {c e : Char} (h : escaped? c = some e) (hu : c ≠ 'u') (r : List Char) :
    readUnits ('\\' :: c :: r) = withUnit e.toNat (readUnits r) := by
  rw [readUnits.eq_4 _ _ fun _ _ _ _ _ hc _ => hu hc, h]
  rfl

theorem readUnits_plain {c : Char} (hq : c ≠ '"') (hb : c ≠ '\\') (h : ¬ c.toNat < 0x20)
    (r : List Char) : readUnits (c :: r) = withUnit c.toNat (readUnits r) := by
  rw [readUnits.eq_5 _ _ (fun hc => hq hc) (fun _ _ _ _ _ hc _ => hb hc) fun _ _ hc _ => hb hc]
  simp [hb, h, withUnit]

theorem hex_four (n : Nat) : hex 4 n = [Nat.digitChar (n / 16 / 16 / 16 % 16),
    Nat.digitChar (n / 16 / 16 % 16), Nat.digitChar (n / 16 % 16), Nat.digitChar (n % 16)] := rfl

/-- What stands behind the escape of a control character. -/
theorem hex_control : ∀ n < 0x20, (hex 4 n).all isHex = true ∧ hexNumber (hex 4 n) = n := by
  decide

theorem readUnits_unitEscape {n : Nat} (h : n < 0x20) (r : List Char) :
    readUnits (unitEscape n ++ r) = withUnit n (readUnits r) := by
  obtain ⟨hall, hnumber⟩ := hex_control n h
  rw [hex_four] at hall hnumber
  rw [unitEscape, hex_four, List.cons_append, List.cons_append]
  simp only [List.cons_append, List.nil_append]
  rw [readUnits.eq_3, if_pos hall, hnumber]
  rfl

/-- A short escape is read as the character it stands for. -/
theorem shortEscape?_eq_some {c : Char} {e : List Char} (h : shortEscape? c = some e) :
    ∃ a, e = ['\\', a] ∧ escaped? a = some c ∧ a ≠ 'u' := by
  have hc : c = '"' ∨ c = '\\' ∨ c = '\n' ∨ c = '\r' ∨ c = '\t' ∨ c = '\x08' ∨ c = '\x0c' := by
    by_contra hnot
    simp only [not_or] at hnot
    simp [shortEscape?, hnot] at h
  rcases hc with rfl | rfl | rfl | rfl | rfl | rfl | rfl <;>
  · cases h
    exact ⟨_, rfl, rfl, by decide⟩

theorem shortEscape?_eq_none {c : Char} (h : shortEscape? c = none) : c ≠ '"' ∧ c ≠ '\\' := by
  constructor <;> rintro rfl <;> cases h

theorem readUnits_escapeChar (c : Char) (r : List Char) :
    readUnits (escapeChar c ++ r) = withUnit c.toNat (readUnits r) := by
  unfold escapeChar
  cases h : shortEscape? c with
  | some e =>
    obtain ⟨a, rfl, ha, hu⟩ := shortEscape?_eq_some h
    exact readUnits_escaped ha hu r
  | none =>
    obtain ⟨hq, hb⟩ := shortEscape?_eq_none h
    dsimp only
    split
    · next hc => exact readUnits_unitEscape hc r
    · next hc => exact readUnits_plain hq hb hc r

theorem readUnits_escape (cs r : List Char) :
    readUnits (cs.flatMap escapeChar ++ '"' :: r) = some (cs.map Char.toNat, r) := by
  induction cs with
  | nil => rfl
  | cons c cs ih => rw [List.flatMap_cons, List.append_assoc, readUnits_escapeChar, ih]; rfl

/-!
From units to characters.
-/

theorem joinUnits_toNat (cs : List Char) : joinUnits (cs.map Char.toNat) = cs := by
  -- The number of a character is no half of a surrogate pair.
  have hone (c : Char) : (if c.toNat.isValidChar then Char.ofNat c.toNat else '\ufffd') = c := by
    have hv : c.toNat.isValidChar := c.valid
    rw [if_pos hv, Char.ofNat_toNat]
  induction cs with
  | nil => rfl
  | cons c cs ih =>
    cases cs with
    | nil => rw [List.map_singleton, joinUnits, hone]
    | cons d cs =>
      have hv : c.toNat < 0xD800 ∨ 0xDFFF < c.toNat ∧ c.toNat < 0x110000 := c.valid
      have hhalf : ¬ (0xD800 ≤ c.toNat ∧ c.toNat < 0xDC00) := by omega
      rw [List.map_cons, List.map_cons, joinUnits, hone, ← List.map_cons, ih, if_neg]
      simpa using fun hl hh => absurd ⟨hl, hh⟩ hhalf

theorem readText_escape (cs r : List Char) :
    readText (cs.flatMap escapeChar ++ '"' :: r) = some (cs, r) := by
  rw [readText, readUnits_escape]
  exact congrArg (fun ds => some (ds, r)) (joinUnits_toNat cs)

theorem quote_append (cs r : List Char) :
    quote cs ++ r = '"' :: (cs.flatMap escapeChar ++ '"' :: r) := by
  simp [quote]

theorem readTree_quote (fuel : Nat) (cs r : List Char) :
    readTree (fuel + 1) (quote cs ++ r) = some (.text cs, r) := by
  rw [quote_append, readTree, readText_escape]
  rfl

end AlertRelay.Json
