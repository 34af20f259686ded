import AlertRelay.Proofs.Result
import AlertRelay.Template.Directive

/-!
What a directive makes of its argument: the argument in the form that the verb stands for, brought
to the width, or a note of its type if it does not suit the verb.
-/

namespace AlertRelay.Template

open AlertRelay.Number AlertRelay.Text

/-- The sorts of arguments that a verb takes. Any other letter takes none. -/
inductive Suits (c : Char) : Value → Prop
  | any {v} : c = 'v' ∨ c = 'q' → Suits c v
  | text {s} : c = 's' → Suits c (.text s)
  | whole {n} : c = 'd' → Suits c (.int n)
  | rounded {n} : c ∈ ['f', 'e', 'g'] → Suits c (.int n)
  | fraction {x} : c ∈ ['f', 'e', 'g'] → Suits c (.float x)

namespace Directive

/-- What stands before the digits of an integer. The flag for a plus outdoes the one for a space. -/
inductive IsSign (d : Directive) (n : Int) : List Char → Prop
  | minus : n < 0 → IsSign d n ['-']
  | plus : 0 ≤ n → '+' ∈ d.flags → IsSign d n ['+']
  | space : 0 ≤ n → '+' ∉ d.flags → ' ' ∈ d.flags → IsSign d n [' ']
  | none : 0 ≤ n → '+' ∉ d.flags → ' ' ∉ d.flags → IsSign d n []

/-- A sign and digits with `k` more characters, where the flags ask for them. -/
inductive IsFilled (d : Directive) (k : Nat) (sign digits : List Char) : List Char → Prop
  | behind : '-' ∈ d.flags → IsFilled d k sign digits (sign ++ digits ++ List.replicate k ' ')
  | between : '-' ∉ d.flags → '0' ∈ d.flags →
      IsFilled d k sign digits (sign ++ List.replicate k '0' ++ digits)
  | before : '-' ∉ d.flags → '0' ∉ d.flags →
      IsFilled d k sign digits (List.replicate k ' ' ++ (sign ++ digits))

/-- A text with spaces on the side that the flags ask for. -/
structure LaysText (d : Directive) (cs t : List Char) : Prop where
  length : t.length = max (digitsValue d.width) cs.length
  behind : '-' ∈ d.flags → t = cs ++ List.replicate (digitsValue d.width - cs.length) ' '
  before : '-' ∉ d.flags → t = List.replicate (digitsValue d.width - cs.length) ' ' ++ cs

/-- A text up to the precision, if there is one. -/
inductive IsCut (d : Directive) (cs : List Char) : List Char → Prop
  | whole : d.precision = none → IsCut d cs cs
  | part {ds} : d.precision = some ds → ds ≠ [] → digitsValue ds ≤ countLimit →
      IsCut d cs (cs.take (digitsValue ds))

/-- The places of a number with a fraction. -/
inductive HasPlaces (d : Directive) : Nat → Prop
  | six : d.precision = none → HasPlaces d 6
  | given {ds} : d.precision = some ds → ds ≠ [] → digitsValue ds ≤ precisionLimit →
      HasPlaces d (digitsValue ds)

/-- A whole number with the sign of another number. -/
def signed (negative : Bool) : Int := if negative then -1 else 1

/-- A number with a fraction: a whole number with the same sign, and the rest of its text. -/
inductive Shows (d : Directive) (places : Nat) : Double → Int → List Char → Prop
  | nan : Shows d places .nan (signed false) "nan".toList
  | infinite {s} : Shows d places (.infinite s) (signed s) "inf".toList
  | finite {s m e} : Shows d places (.finite s m e) (signed s) (doubleDigits d.verb places m e)

/-- A number in the form that the verb stands for. -/
inductive Numeral (d : Directive) : Value → Int → List Char → Prop
  | whole {n} : d.verb = 'd' → n.natAbs < limitBound →
      Numeral d (.int n) n (natDigits n.natAbs)
  | rounded {n x places i digits} : d.verb ∈ ['f', 'e', 'g'] → Double.ofInt? n = some x →
      d.HasPlaces places → d.Shows places x i digits → Numeral d (.int n) i digits
  | fraction {x places i digits} : d.verb ∈ ['f', 'e', 'g'] →
      d.HasPlaces places → d.Shows places x i digits → Numeral d (.float x) i digits

/-- What stands for an argument. -/
inductive Converts (d : Directive) : Value → List Char → Prop
  | text {v s cs t} : d.verb = 'v' ∧ v.print = .ok s ∨ d.verb = 's' ∧ v = .text s →
      digitsValue d.width ≤ countLimit → d.IsCut s.toList cs → d.LaysText cs t → Converts d v t
  | quoted {v s t} : d.verb = 'q' → v.print = .ok s → digitsValue d.width ≤ countLimit →
      d.LaysText (Json.quote s.toList) t → Converts d v t
  | number {v i digits sign t} : d.Numeral v i digits → digitsValue d.width ≤ countLimit →
      d.IsSign i sign →
      d.IsFilled (digitsValue d.width - (sign ++ digits).length) sign digits t → Converts d v t
  | misfit {v s} : ¬ Suits d.verb v → v.print = .ok s →
      Converts d v ('%' :: '!' :: d.verb :: ("(" ++ v.typeName ++ "=" ++ s ++ ")").toList)

variable {d : Directive} {v : Value} {n i : Int} {k places : Nat}
variable {cs ds sign digits t : List Char}

theorem count_eq_ok_iff : count ds = .ok k ↔ digitsValue ds ≤ countLimit ∧ digitsValue ds = k := by
  unfold count
  dsimp only
  split
  · next h => exact ⟨nofun, fun ⟨hle, _⟩ => absurd h (Nat.not_lt.mpr hle)⟩
  · next h => exact ⟨fun hk => ⟨Nat.not_lt.mp h, Except.ok.inj hk⟩, fun hk => congrArg _ hk.2⟩

theorem precision?_eq_ok_iff {p : Option Nat} : d.precision? = .ok p ↔
    d.precision = none ∧ p = none ∨
      ∃ ds, d.precision = some ds ∧ ds ≠ [] ∧ digitsValue ds ≤ countLimit ∧
        p = some (digitsValue ds) := by
  unfold precision?
  split
  · next hp => simp [hp, eq_comm]
  · next hp => simp [hp]
  · next ds hne hp =>
    rw [hp]
    constructor
    · intro h
      obtain ⟨k, hk, rfl⟩ := map_eq_ok h
      obtain ⟨hle, rfl⟩ := count_eq_ok_iff.mp hk
      exact .inr ⟨ds, rfl, fun h => hne h, hle, rfl⟩
    · rintro (⟨⟨⟩, -⟩ | ⟨_, ⟨⟩, -, hle, rfl⟩)
      rw [count_eq_ok_iff.mpr ⟨hle, rfl⟩]
      rfl

/-- Where the width is not too great, what is done with it decides. -/
theorem width?_bind_eq_ok_iff {α : Type} {f : Nat → Except FormatError α} {a : α} :
    d.width? >>= f = .ok a ↔ digitsValue d.width ≤ countLimit ∧ f (digitsValue d.width) = .ok a := by
  rw [bind_eq_ok_iff]
  constructor
  · rintro ⟨w, hw, h⟩
    obtain ⟨hle, rfl⟩ := count_eq_ok_iff.mp hw
    exact ⟨hle, h⟩
  · rintro ⟨hle, h⟩
    exact ⟨_, count_eq_ok_iff.mpr ⟨hle, rfl⟩, h⟩

/-!
Filling up.
-/

theorem laysText_padText (d : Directive) (cs : List Char) :
    d.LaysText cs (d.padText (digitsValue d.width) cs) := by
  by_cases hminus : '-' ∈ d.flags
  · have hpad : d.padText (digitsValue d.width) cs = padRight (digitsValue d.width) ' ' cs := by
      simp [padText, hasFlag, hminus]
    rw [hpad]
    exact ⟨length_padRight .., fun _ => rfl, fun h => absurd hminus h⟩
  · have hpad : d.padText (digitsValue d.width) cs = padLeft (digitsValue d.width) ' ' cs := by
      simp [padText, hasFlag, hminus]
    rw [hpad]
    exact ⟨length_padLeft .., fun h => absurd h hminus, fun _ => rfl⟩

theorem laysText_iff : d.LaysText cs t ↔ d.padText (digitsValue d.width) cs = t := by
  have hpad := d.laysText_padText cs
  refine ⟨fun h => ?_, fun h => h ▸ hpad⟩
  by_cases hminus : '-' ∈ d.flags
  · exact (hpad.behind hminus).trans (h.behind hminus).symm
  · exact (hpad.before hminus).trans (h.before hminus).symm

theorem isSign_signText (d : Directive) (n : Int) : d.IsSign n (d.signText (decide (n < 0))) := by
  by_cases hn : n < 0
  · simpa [signText, hn] using IsSign.minus hn
  · have hn' : 0 ≤ n := Int.not_lt.mp hn
    by_cases hplus : '+' ∈ d.flags
    · simpa [signText, hn, hasFlag, hplus] using IsSign.plus hn' hplus
    · by_cases hspace : ' ' ∈ d.flags
      · simpa [signText, hn, hasFlag, hplus, hspace] using IsSign.space hn' hplus hspace
      · simpa [signText, hn, hasFlag, hplus, hspace] using IsSign.none hn' hplus hspace

theorem IsSign.eq_signText (h : d.IsSign n sign) : d.signText (decide (n < 0)) = sign := by
  cases h with
  | minus hn => simp [signText, hn]
  | plus hn hplus => simp [signText, Int.not_lt.mpr hn, hasFlag, hplus]
  | space hn hplus hspace => simp [signText, Int.not_lt.mpr hn, hasFlag, hplus, hspace]
  | none hn hplus hspace => simp [signText, Int.not_lt.mpr hn, hasFlag, hplus, hspace]

theorem isFilled_padNumber (d : Directive) (width : Nat) (negative : Bool) (digits : List Char) :
    d.IsFilled (width - (d.signText negative ++ digits).length) (d.signText negative) digits
      (d.padNumber width negative digits) := by
  by_cases hminus : '-' ∈ d.flags
  · simpa [padNumber, padText, padRight, hasFlag, hminus] using IsFilled.behind hminus
  · by_cases hzero : '0' ∈ d.flags
    · simpa [padNumber, padLeft, hasFlag, hminus, hzero, Nat.sub_sub] using
        IsFilled.between hminus hzero
    · simpa [padNumber, padText, padLeft, hasFlag, hminus, hzero] using
        IsFilled.before hminus hzero

theorem IsFilled.unique {t' : List Char} (h : d.IsFilled k sign digits t)
    (h' : d.IsFilled k sign digits t') : t = t' := by
  cases h with
  | behind hminus => cases h' with
    | behind => rfl
    | between hno | before hno => exact absurd hminus hno
  | between hminus hzero => cases h' with
    | behind hyes => exact absurd hyes hminus
    | between => rfl
    | before _ hno => exact absurd hzero hno
  | before hminus hzero => cases h' with
    | behind hyes => exact absurd hyes hminus
    | between _ hyes => exact absurd hyes hzero
    | before => rfl

theorem padNumber_eq_iff : d.padNumber (digitsValue d.width) (decide (i < 0)) digits = t ↔
    ∃ sign, d.IsSign i sign ∧
      d.IsFilled (digitsValue d.width - (sign ++ digits).length) sign digits t := by
  have hfilled := d.isFilled_padNumber (digitsValue d.width) (decide (i < 0)) digits
  constructor
  · rintro rfl
    exact ⟨_, isSign_signText d i, hfilled⟩
  · rintro ⟨sign, hsign, ht⟩
    rw [hsign.eq_signText] at hfilled
    exact hfilled.unique ht

/-!
The forms of the verbs.
-/

theorem printed_eq_ok_iff {s : String} : printed v = .ok s ↔ v.print = .ok s := by
  unfold printed
  cases v.print with
  | ok s' => simp
  | error e => simp

theorem misfit_eq_ok_iff : d.misfit v = .ok t ↔ ∃ s, v.print = .ok s ∧
    t = '%' :: '!' :: d.verb :: ("(" ++ v.typeName ++ "=" ++ s ++ ")").toList := by
  unfold misfit
  cases v.print with
  | ok s => simp [eq_comm]
  | error e => simp

theorem layText_eq_ok_iff {s : String} : d.layText s = .ok t ↔
    digitsValue d.width ≤ countLimit ∧ ∃ cs, d.IsCut s.toList cs ∧ d.LaysText cs t := by
  unfold layText
  rw [width?_bind_eq_ok_iff]
  refine and_congr_right fun _ => bind_eq_ok_iff.trans ?_
  constructor
  · rintro ⟨p, hp, h⟩
    obtain ⟨hnone, rfl⟩ | ⟨ds, hds, hne, hlimit, rfl⟩ := precision?_eq_ok_iff.mp hp
    · exact ⟨_, .whole hnone, laysText_iff.mpr (Except.ok.inj h)⟩
    · exact ⟨_, .part hds hne hlimit, laysText_iff.mpr (Except.ok.inj h)⟩
  · rintro ⟨cs, hcut, ht⟩
    rw [laysText_iff] at ht
    cases hcut with
    | whole hnone => exact ⟨none, precision?_eq_ok_iff.mpr (.inl ⟨hnone, rfl⟩), congrArg _ ht⟩
    | @part ds hds hne hlimit =>
      exact ⟨_, precision?_eq_ok_iff.mpr (.inr ⟨ds, hds, hne, hlimit, rfl⟩), congrArg _ ht⟩

theorem layQuoted_eq_ok_iff {s : String} : d.layQuoted s = .ok t ↔
    digitsValue d.width ≤ countLimit ∧ d.LaysText (Json.quote s.toList) t := by
  unfold layQuoted
  rw [width?_bind_eq_ok_iff, laysText_iff]
  exact and_congr_right fun _ => ⟨Except.ok.inj, congrArg _⟩

theorem layInt_eq_ok_iff : d.layInt n = .ok t ↔ digitsValue d.width ≤ countLimit ∧
    n.natAbs < limitBound ∧
      d.padNumber (digitsValue d.width) (decide (n < 0)) (natDigits n.natAbs) = t := by
  unfold layInt
  rw [width?_bind_eq_ok_iff]
  refine and_congr_right fun _ => ?_
  split
  · next hn => exact ⟨fun h => ⟨hn, Except.ok.inj h⟩, fun h => congrArg _ h.2⟩
  · next hn => exact ⟨nofun, fun h => absurd h.1 hn⟩

theorem hasPlaces_iff : d.HasPlaces places ↔
    ∃ p, d.precision? = .ok p ∧ p.getD 6 = places ∧ places ≤ precisionLimit := by
  constructor
  · rintro (hnone | ⟨hds, hne, hle⟩)
    · exact ⟨none, precision?_eq_ok_iff.mpr (.inl ⟨hnone, rfl⟩), rfl, by decide⟩
    · have hlimit := Nat.le_trans hle (by decide : precisionLimit ≤ countLimit)
      exact ⟨_, precision?_eq_ok_iff.mpr (.inr ⟨_, hds, hne, hlimit, rfl⟩), rfl, hle⟩
  · rintro ⟨p, hp, rfl, hle⟩
    obtain ⟨hnone, rfl⟩ | ⟨ds, hds, hne, -, rfl⟩ := precision?_eq_ok_iff.mp hp
    · exact .six hnone
    · exact .given hds hne hle

/-- The text of a number with a fraction. -/
def layShown (d : Directive) (places : Nat) : Double → List Char
  | .nan => d.padNumber (digitsValue d.width) false "nan".toList
  | .infinite s => d.padNumber (digitsValue d.width) s "inf".toList
  | .finite s m e => d.padNumber (digitsValue d.width) s (doubleDigits d.verb places m e)

theorem decide_signed (s : Bool) : decide (signed s < 0) = s := by
  cases s <;> rfl

theorem layShown_eq_iff {x : Double} : d.layShown places x = t ↔
    ∃ i digits, d.Shows places x i digits ∧
      d.padNumber (digitsValue d.width) (decide (i < 0)) digits = t := by
  constructor
  · rintro rfl
    cases x with
    | nan => exact ⟨_, _, .nan, rfl⟩
    | infinite s => exact ⟨_, _, .infinite, by rw [decide_signed]; rfl⟩
    | finite s m e => exact ⟨_, _, .finite, by rw [decide_signed]; rfl⟩
  · rintro ⟨i, digits, hshows, rfl⟩
    cases hshows with
    | nan | infinite | finite => rw [decide_signed]; rfl

theorem layDouble_eq_ok_iff {x : Double} : d.layDouble x = .ok t ↔
    digitsValue d.width ≤ countLimit ∧
      ∃ places, d.HasPlaces places ∧ d.layShown places x = t := by
  unfold layDouble
  rw [width?_bind_eq_ok_iff]
  refine and_congr_right fun _ => bind_eq_ok_iff.trans ?_
  constructor
  · rintro ⟨p, hp, h⟩
    dsimp only at h
    split at h
    · cases h
    · next hlimit =>
      refine ⟨_, hasPlaces_iff.mpr ⟨p, hp, rfl, Nat.not_lt.mp hlimit⟩, ?_⟩
      cases x with
      | nan | infinite | finite => exact Except.ok.inj h
  · rintro ⟨places, hplaces, rfl⟩
    obtain ⟨p, hp, rfl, hlimit⟩ := hasPlaces_iff.mp hplaces
    refine ⟨p, hp, ?_⟩
    dsimp only
    rw [if_neg (Nat.not_lt.mpr hlimit)]
    cases x with
    | nan | infinite | finite => rfl

theorem layDouble_iff {x : Double} : d.layDouble x = .ok t ↔ digitsValue d.width ≤ countLimit ∧
    ∃ places i digits sign, d.HasPlaces places ∧ d.Shows places x i digits ∧ d.IsSign i sign ∧
      d.IsFilled (digitsValue d.width - (sign ++ digits).length) sign digits t := by
  simp only [layDouble_eq_ok_iff, layShown_eq_iff, padNumber_eq_iff]
  constructor
  · rintro ⟨hle, places, hplaces, i, digits, hshows, sign, hsign, ht⟩
    exact ⟨hle, places, i, digits, sign, hplaces, hshows, hsign, ht⟩
  · rintro ⟨hle, places, i, digits, sign, hplaces, hshows, hsign, ht⟩
    exact ⟨hle, places, hplaces, i, digits, hshows, sign, hsign, ht⟩

/-!
The verbs.
-/

theorem lay_value (hverb : d.verb = 'v') : d.lay v = printed v >>= d.layText := by
  unfold lay
  rw [hverb]
  rfl

theorem lay_quoted (hverb : d.verb = 'q') : d.lay v = printed v >>= d.layQuoted := by
  unfold lay
  rw [hverb]
  rfl

theorem lay_text {s : String} (hverb : d.verb = 's') : d.lay (.text s) = d.layText s := by
  unfold lay
  rw [hverb]
  rfl

theorem lay_whole (hverb : d.verb = 'd') : d.lay (.int n) = d.layInt n := by
  unfold lay
  rw [hverb]
  rfl

theorem lay_fraction (hverb : d.verb ∈ ['f', 'e', 'g']) : d.lay v =
    match v with
    | .int n =>
      match Double.ofInt? n with
      | some x => d.layDouble x
      | none => .error .noDouble
    | .float x => d.layDouble x
    | _ => d.misfit v := by
  simp only [List.mem_cons, List.not_mem_nil, or_false] at hverb
  unfold lay
  rcases hverb with h | h | h <;> rw [h] <;> rfl

theorem lay_of_not_suits (h : ¬ Suits d.verb v) : d.lay v = d.misfit v := by
  unfold lay
  simp only [beq_iff_eq, Bool.or_eq_true]
  split
  · next hverb => exact absurd (.any (.inl hverb)) h
  split
  · next hverb => exact absurd (.any (.inr hverb)) h
  split
  · next hverb =>
    split
    · exact absurd (.text hverb) h
    · rfl
  split
  · next hverb =>
    split
    · exact absurd (.whole hverb) h
    · rfl
  split
  · next hverb =>
    have hmem : d.verb ∈ ['f', 'e', 'g'] := by simpa [or_assoc] using hverb
    split
    · exact absurd (.rounded hmem) h
    · exact absurd (.fraction hmem) h
    · rfl
  · rfl

theorem Converts.lay (h : d.Converts v t) : d.lay v = .ok t := by
  cases h with
  | @text s _ _ hs hle hcut ht =>
    have hlay : d.layText s = .ok t := layText_eq_ok_iff.mpr ⟨hle, _, hcut, ht⟩
    obtain ⟨hverb, hs⟩ | ⟨hverb, rfl⟩ := hs
    · rw [lay_value hverb, printed_eq_ok_iff.mpr hs]
      exact hlay
    · rw [lay_text hverb, hlay]
  | quoted hverb hs hle ht =>
    rw [lay_quoted hverb, printed_eq_ok_iff.mpr hs]
    exact layQuoted_eq_ok_iff.mpr ⟨hle, ht⟩
  | number hnumeral hle hsign ht =>
    cases hnumeral with
    | whole hverb hn =>
      rw [lay_whole hverb]
      exact layInt_eq_ok_iff.mpr ⟨hle, hn, padNumber_eq_iff.mpr ⟨_, hsign, ht⟩⟩
    | rounded hverb hx hplaces hshows =>
      rw [lay_fraction hverb]
      dsimp only
      rw [hx]
      exact layDouble_iff.mpr ⟨hle, _, _, _, _, hplaces, hshows, hsign, ht⟩
    | fraction hverb hplaces hshows =>
      rw [lay_fraction hverb]
      exact layDouble_iff.mpr ⟨hle, _, _, _, _, hplaces, hshows, hsign, ht⟩
  | misfit hsuits hs =>
    rw [lay_of_not_suits hsuits]
    exact misfit_eq_ok_iff.mpr ⟨_, hs, rfl⟩

theorem converts_of_lay (h : d.lay v = .ok t) : d.Converts v t := by
  by_cases hsuits : Suits d.verb v
  · cases hsuits with
    | any hverb =>
      obtain hverb | hverb := hverb
      · rw [lay_value hverb] at h
        obtain ⟨s, hs, h⟩ := bind_eq_ok_iff.mp h
        obtain ⟨hle, cs, hcut, ht⟩ := layText_eq_ok_iff.mp h
        exact .text (.inl ⟨hverb, printed_eq_ok_iff.mp hs⟩) hle hcut ht
      · rw [lay_quoted hverb] at h
        obtain ⟨s, hs, h⟩ := bind_eq_ok_iff.mp h
        obtain ⟨hle, ht⟩ := layQuoted_eq_ok_iff.mp h
        exact .quoted hverb (printed_eq_ok_iff.mp hs) hle ht
    | text hverb =>
      rw [lay_text hverb] at h
      obtain ⟨hle, cs, hcut, ht⟩ := layText_eq_ok_iff.mp h
      exact .text (.inr ⟨hverb, rfl⟩) hle hcut ht
    | whole hverb =>
      rw [lay_whole hverb] at h
      obtain ⟨hle, hn, h⟩ := layInt_eq_ok_iff.mp h
      obtain ⟨sign, hsign, ht⟩ := padNumber_eq_iff.mp h
      exact .number (.whole hverb hn) hle hsign ht
    | @rounded n hverb =>
      rw [lay_fraction hverb] at h
      dsimp only at h
      cases hx : Double.ofInt? n with
      | none =>
        rw [hx] at h
        cases h
      | some x =>
        rw [hx] at h
        obtain ⟨hle, _, _, _, _, hplaces, hshows, hsign, ht⟩ := layDouble_iff.mp h
        exact .number (.rounded hverb hx hplaces hshows) hle hsign ht
    | fraction hverb =>
      rw [lay_fraction hverb] at h
      obtain ⟨hle, _, _, _, _, hplaces, hshows, hsign, ht⟩ := layDouble_iff.mp h
      exact .number (.fraction hverb hplaces hshows) hle hsign ht
  · rw [lay_of_not_suits hsuits] at h
    obtain ⟨s, hs, rfl⟩ := misfit_eq_ok_iff.mp h
    exact .misfit hsuits hs

end Directive

end AlertRelay.Template
