import AlertRelay.Proofs.Number.Digits
import AlertRelay.Proofs.Text.Blank
import AlertRelay.Url.Basic

/-!
Ports. The digits that one is written with are read as the same number.
-/

namespace AlertRelay.Url

open AlertRelay.Number AlertRelay.Text

variable {n : Int} {scheme text : List Char}

/-- A number that can be written within the limit on digits. -/
def IsShort (n : Int) : Prop := (natDigits n.natAbs).length ≤ digitLimit

/-- How a port is written behind its colon. -/
def portText : Option Int → List Char
  | none => []
  | some n => intDigits n

theorem portNumber?_isShort (h : portNumber? text = some n) : IsShort n := by
  unfold portNumber? at h
  dsimp only at h
  split at h
  · next hds =>
    rw [Bool.and_eq_true, decide_eq_true_eq] at hds
    have hpow := Nat.lt_of_lt_of_le (digitsValue_lt _) (powTen_le_powTen hds.2)
    have habs := congrArg Int.natAbs (Option.some.inj h)
    refine (length_natDigits_le_iff _ (by decide)).mpr ?_
    rw [← habs]
    split <;> simpa using hpow
  · cases h

theorem readPort_isShort {port : Option Int} (h : readPort scheme text = .ok port) :
    ∀ n ∈ port, IsShort n := by
  unfold readPort at h
  split at h
  · cases h
    simp
  · split at h
    · cases h
    · next m hm =>
      have hshort := portNumber?_isShort hm
      cases h
      intro n hn
      split at hn
      · cases hn
      · cases hn
        exact hshort

theorem mem_intDigits {c : Char} (h : c ∈ intDigits n) : c = '-' ∨ c.isDigit = true := by
  unfold intDigits at h
  split at h
  · rcases List.mem_cons.mp h with rfl | h
    · exact .inl rfl
    · exact .inr (isDigit_natDigits c h)
  · exact .inr (isDigit_natDigits c h)

theorem mem_portText {port : Option Int} {c : Char} (h : c ∈ portText port) :
    c = '-' ∨ c.isDigit = true := by
  cases port with
  | none => cases h
  | some n => exact mem_intDigits h

theorem intDigits_ne_nil (n : Int) : intDigits n ≠ [] := by
  unfold intDigits
  split
  · exact List.cons_ne_nil _ _
  · exact natDigits_ne_nil _

theorem areGroupedDigits_of_isDigit {ds : List Char} (hne : ds ≠ [])
    (h : ∀ c ∈ ds, c.isDigit = true) : areGroupedDigits ds = true := by
  fun_induction areGroupedDigits ds with
  | case1 => exact absurd rfl hne
  | case2 c => exact isDigit_of_isDigit (h c List.mem_cons_self)
  | case3 c rest ih => exact absurd (h '_' (by simp)) (by decide)
  | case4 c rest hrest _ ih =>
    rw [isDigit_of_isDigit (h c List.mem_cons_self), Bool.true_and]
    exact ih (by simpa using hrest) fun a ha => h a (List.mem_cons_of_mem c ha)

theorem takeSign_intDigits (n : Int) :
    Double.takeSign (intDigits n) = (decide (n < 0), natDigits n.natAbs) := by
  unfold intDigits
  split
  · next hn =>
    rw [decide_eq_true hn]
    rfl
  · next hn =>
    rw [decide_eq_false hn]
    obtain ⟨d, ds, hds⟩ := List.exists_cons_of_ne_nil (natDigits_ne_nil n.natAbs)
    have hd : d.isDigit = true := isDigit_natDigits d (hds ▸ List.mem_cons_self)
    rw [hds, takeSign_of_isDigit hd]

theorem not_isWhiteSpace_of_isDigit {c : Char} (h : c.isDigit = true) : isWhiteSpace c = false := by
  rw [Char.isDigit, Bool.and_eq_true, decide_eq_true_eq, decide_eq_true_eq] at h
  have h₁ : 48 ≤ c.toNat := h.1
  have h₂ : c.toNat ≤ 57 := h.2
  simp [isWhiteSpace]
  omega

theorem portNumber?_intDigits (h : IsShort n) : portNumber? (intDigits n) = some n := by
  have htrim : trimBy isWhiteSpace (intDigits n) = intDigits n := by
    refine trimBy_eq_self fun c hc => ?_
    rcases mem_intDigits hc with rfl | hd
    · decide
    · exact not_isWhiteSpace_of_isDigit hd
  have hplain : (natDigits n.natAbs).filter (· != '_') = natDigits n.natAbs := by
    refine List.filter_eq_self.mpr fun c hc => ?_
    rw [bne_iff_ne]
    rintro rfl
    cases isDigit_natDigits _ hc
  have hgrouped : areGroupedDigits (natDigits n.natAbs) = true :=
    areGroupedDigits_of_isDigit (natDigits_ne_nil _) isDigit_natDigits
  have hshort : (natDigits n.natAbs).length ≤ digitLimit := h
  unfold portNumber?
  rw [htrim, takeSign_intDigits]
  dsimp only
  rw [hplain, hgrouped, Bool.true_and, if_pos (decide_eq_true hshort), digitsValue_natDigits]
  by_cases hn : n < 0
  · rw [if_pos (decide_eq_true hn)]
    exact congrArg some (show -(n.natAbs : Int) = n by omega)
  · rw [if_neg (by simpa using hn)]
    exact congrArg some (show (n.natAbs : Int) = n by omega)

/-- A port that is read again is kept unless it goes without saying. -/
theorem readPort_portText {port : Option Int} (h : ∀ n ∈ port, IsShort n) :
    readPort scheme (portText port) =
      .ok (port.filter fun n => defaultPort? scheme != some n) := by
  cases port with
  | none => rfl
  | some n =>
    have hne : (portText (some n)).isEmpty = false := by
      simpa [portText] using intDigits_ne_nil n
    unfold readPort
    rw [hne, portText, portNumber?_intDigits (h n rfl)]
    by_cases hd : defaultPort? scheme = some n <;> simp [Option.filter, hd]

end AlertRelay.Url
