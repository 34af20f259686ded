import AlertRelay.Proofs.Text.Split
import AlertRelay.Proofs.Url.Wire
import AlertRelay.Url.Basic

/-!
Hosts. In normal form one is an address of eight parts, or all of its characters may stay as they
are; the second kind can still be changed by being read again.
-/

namespace AlertRelay.Url

open AlertRelay.Number AlertRelay.Text

variable {c : Char} {host text : List Char}

theorem of_ascii {P : Char → Prop} (h : ∀ n < 0x80, P (Char.ofNat n)) (hc : c.toNat < 0x80) :
    P c :=
  Char.ofNat_toNat c ▸ h c.toNat hc

/-- A host without brackets around it, in normal form. -/
def IsPlainHost (host : List Char) : Prop := ∀ c ∈ host, Kept hostSafe c

theorem ascii_of_kept (h : Kept hostSafe c) : c.toNat < 0x80 := by
  have := isSafeSet_hostSafe.printable_of_kept h
  omega

theorem kept_toLower (h : Kept hostSafe c) : Kept hostSafe c.toLower :=
  of_ascii (P := fun c => Kept hostSafe c → Kept hostSafe c.toLower) (by decide +kernel)
    (ascii_of_kept h) h

theorem IsPlainHost.lowerAscii (h : IsPlainHost host) : IsPlainHost (lowerAscii host) := by
  intro c hc
  obtain ⟨a, ha, rfl⟩ := List.mem_map.mp hc
  exact kept_toLower (h a ha)

/-! Addresses of four parts. -/

theorem mem_of_looksFourPart (h : looksFourPart host = true) (hc : c ∈ host) :
    c = '.' ∨ Double.isDecimalDigit c = true := by
  refine (exists_mem_splitAt hc).imp_right fun ⟨p, hp, hcp⟩ => ?_
  unfold looksFourPart at h
  dsimp only at h
  rw [Bool.and_eq_true] at h
  have hdigits := List.all_eq_true.mp h.2 p hp
  rw [Bool.and_eq_true] at hdigits
  exact List.all_eq_true.mp hdigits.2 c hcp

theorem digit_range (h : Double.isDecimalDigit c = true) : 48 ≤ c.toNat ∧ c.toNat ≤ 57 := by
  simpa [Double.isDecimalDigit, Char.le_def, UInt32.le_iff_toNat_le] using h

theorem isPlainHost_of_looksFourPart (h : looksFourPart host = true) : IsPlainHost host := by
  intro c hc
  rcases mem_of_looksFourPart h hc with rfl | hd
  · decide
  · exact .inl (isUnreserved_of_isAlphanum (isAlphanum_iff.mpr (.inr (digit_range hd))))

theorem lowerAscii_of_looksFourPart (h : looksFourPart host = true) : lowerAscii host = host := by
  refine (List.map_congr_left fun c hc => ?_).trans (List.map_id host)
  rcases mem_of_looksFourPart h hc with rfl | hd
  · rfl
  · have hrange := digit_range hd
    exact of_ascii (P := fun c => 48 ≤ c.toNat ∧ c.toNat ≤ 57 → c.toLower = c) (by decide +kernel)
      (by omega) hrange

/-! Addresses of eight parts. -/

theorem colon_mem_of_isEightPart (h : isEightPart host = true) : ':' ∈ host := by
  unfold isEightPart at h
  simp only [Bool.and_eq_true, decide_eq_true_eq] at h
  have hmem := mem_of_one_lt_length_splitAt (Nat.lt_of_lt_of_le (by decide) h.1.2)
  exact (List.takeWhile_prefix _).subset hmem

theorem isBracketed_iff : isBracketed text = true ↔ ∃ inside, text = '[' :: (inside ++ [']']) := by
  unfold isBracketed
  rw [Bool.and_eq_true, beq_iff_eq, beq_iff_eq]
  constructor
  · rintro ⟨hhead, hlast⟩
    match text with
    | [c] =>
      cases hhead
      cases hlast
    | c :: d :: rest =>
      obtain rfl : c = '[' := Option.some.inj hhead
      rw [List.getLast?_cons_cons] at hlast
      obtain ⟨inside, hinside⟩ := List.getLast?_eq_some_iff.mp hlast
      exact ⟨inside, by rw [hinside]⟩
  · rintro ⟨inside, rfl⟩
    refine ⟨rfl, ?_⟩
    rw [← List.cons_append, List.getLast?_concat]

theorem inside_bracketed (inside : List Char) :
    (('[' :: (inside ++ [']'])).drop 1).dropLast = inside := by
  rw [List.drop_one, List.tail_cons, List.dropLast_concat]

theorem not_looksFourPart_bracketed (inside : List Char) :
    looksFourPart ('[' :: inside) = false := by
  refine Bool.eq_false_iff.mpr fun h => ?_
  rcases mem_of_looksFourPart h List.mem_cons_self with hc | hc
  · exact absurd hc (by decide)
  · exact absurd hc (by decide)

theorem readHost_bracketed (h : isEightPart host = true) :
    readHost ('[' :: (host ++ [']'])) = .ok host := by
  have hbracketed : isBracketed ('[' :: (host ++ [']'])) = true := isBracketed_iff.mpr ⟨host, rfl⟩
  unfold readHost
  rw [not_looksFourPart_bracketed, hbracketed, inside_bracketed]
  exact if_pos h

/-! Any host. -/

/-- What is read as a host is an address of eight parts, which stood in brackets, or plain. -/
theorem readHost_eq_ok (h : readHost text = .ok host) :
    (text = '[' :: (host ++ [']']) ∧ isEightPart host = true) ∨ IsPlainHost host := by
  unfold readHost at h
  split at h
  · cases h
    exact .inr fun c hc => absurd hc List.not_mem_nil
  · split at h
    · next hlooks =>
      split at h
      · cases h
        exact .inr (isPlainHost_of_looksFourPart hlooks)
      · cases h
    · split at h
      · next hb =>
        obtain ⟨inside, rfl⟩ := isBracketed_iff.mp hb
        rw [inside_bracketed] at h
        dsimp only at h
        split at h
        · next height =>
          cases h
          exact .inl ⟨rfl, height⟩
        · cases h
      · split at h
        · cases h
          exact .inr fun c => isSafeSet_hostSafe.kept_of_mem_escape
        · split at h
          · next codes hcodes =>
            cases h
            refine .inr fun c hc => ?_
            obtain ⟨n, hn, rfl⟩ := List.mem_map.mp hc
            exact .inl (isWire_of_wireName hcodes n hn).2
          · cases h

/-- A plain host is read as it stands, except that it may only look like an address if it is one,
and that capitals become small. -/
theorem readHost_plain_iff (hne : host ≠ []) (h : IsPlainHost host) {host' : List Char} :
    readHost host = .ok host' ↔
      (looksFourPart host = true → isFourPart host = true) ∧ host' = lowerAscii host := by
  have hempty : host.isEmpty = false := by simpa using hne
  unfold readHost
  rw [hempty, if_neg (by decide)]
  cases hlooks : looksFourPart host with
  | true =>
    rw [if_pos rfl, lowerAscii_of_looksFourPart hlooks]
    cases isFourPart host <;> simp [eq_comm]
  | false =>
    have hbracketed : isBracketed host = false := by
      refine Bool.eq_false_iff.mpr fun hb => ?_
      obtain ⟨inside, rfl⟩ := isBracketed_iff.mp hb
      exact absurd (h '[' List.mem_cons_self) (by decide)
    have hascii : host.all (·.toNat < 0x80) = true :=
      List.all_eq_true.mpr fun c hc => decide_eq_true (ascii_of_kept (h c hc))
    rw [if_neg (by decide), hbracketed, if_neg (by decide), if_pos hascii,
      isSafeSet_hostSafe.escape_of_kept h.lowerAscii]
    constructor
    · rintro ⟨⟩
      exact ⟨nofun, rfl⟩
    · rintro ⟨-, rfl⟩
      rfl

end AlertRelay.Url
