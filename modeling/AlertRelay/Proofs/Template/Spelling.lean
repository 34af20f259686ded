import AlertRelay.Proofs.Number.Digits
import AlertRelay.Proofs.Template.ItemReading

/-!
How the items of an action are written. Each spelling, with a blank after it, is read as its item.
-/

namespace AlertRelay.Template

open AlertRelay.Number AlertRelay.Text

/-- A sign before a number, if there is one. -/
inductive Sign where
  | none
  | plus
  | minus
  deriving DecidableEq, Repr

def Sign.chars : Sign → List Char
  | .none => []
  | .plus => ['+']
  | .minus => ['-']

def Sign.apply : Sign → Nat → Int
  | .minus, n => -(n : Int)
  | _, n => n

/-- A character of a quoted text, after a backslash where it needs one. -/
def escaped (c : Char) : List Char :=
  if c = '\\' then ['\\', '\\']
  else if c = '"' then ['\\', '"']
  else if c = '\n' then ['\\', 'n']
  else if c = '\t' then ['\\', 't']
  else if c = '\r' then ['\\', 'r']
  else [c]

/-- How an item is written. -/
inductive Spelling where
  | pipe
  | leftParen
  | rightParen
  | dot
  | field (root : Bool) (names : List (List Char))
  | bool (b : Bool)
  | nil
  | word (name : List Char)
  /-- An integer in decimal, with any number of zeros before it. -/
  | int (sign : Sign) (zeros n : Nat)
  | quoted (content : List Char)
  | raw (content : List Char)

namespace Spelling

def chars : Spelling → List Char
  | .pipe => ['|']
  | .leftParen => ['(']
  | .rightParen => [')']
  | .dot => ['.']
  | .field root names => (if root then ['$'] else []) ++ chainChars names
  | .bool b => if b then "true".toList else "false".toList
  | .nil => "nil".toList
  | .word name => name
  | .int sign zeros n => sign.chars ++ (List.replicate zeros '0' ++ natDigits n)
  | .quoted content => '"' :: (content.flatMap escaped ++ ['"'])
  | .raw content => rawQuote :: (content ++ [rawQuote])

def item : Spelling → Item
  | .pipe => .pipe
  | .leftParen => .leftParen
  | .rightParen => .rightParen
  | .dot => .dot
  | .field root names => .field root (names.map String.ofList)
  | .bool b => .constant (.bool b)
  | .nil => .constant .nil
  | .word name => .word (String.ofList name)
  | .int sign _ n => .constant (.int (sign.apply n))
  | .quoted content => .constant (.text (String.ofList content))
  | .raw content => .constant (.text (String.ofList content))

/-- What a spelling has to keep to: names are names, only the root of the data may stand without
any, words are no constants, integers keep to the limit, and a raw text does not hold its quote. -/
def Valid : Spelling → Prop
  | .field root names => (∀ name ∈ names, IsName name) ∧ (root = false → names ≠ [])
  | .word name => IsName name ∧ String.ofList name ∉ ["true", "false", "nil"]
  | .int _ zeros n => zeros + (natDigits n).length ≤ digitLimit
  | .raw content => rawQuote ∉ content
  | _ => True

end Spelling

/-!
Where the readers stop.
-/

theorem isNameStart_of_isBlank {d : Char} (h : isBlank d = true) : isNameStart d = false :=
  not_of_isBlank (by decide) h

theorem isWord_of_isBlank {d : Char} (h : isBlank d = true) : isWord d = false :=
  not_of_isBlank (by decide) h

theorem isDigit_of_isBlank {d : Char} (h : isBlank d = true) : isDigit d = false :=
  not_of_isBlank (by decide) h

/-- No letter and no underscore is a digit: the unaccented digits stand before them, and those of
other scripts behind. -/
theorem isDigit_of_isNameStart {c : Char} (h : isNameStart c = true) : isDigit c = false := by
  have hrange : 65 ≤ c.toNat ∧ c.toNat ≤ 122 := by
    rw [isNameStart, Bool.or_eq_true, beq_iff_eq] at h
    rcases h with h | rfl
    · rcases (Bool.or_eq_true c.isUpper c.isLower).mp h with h | h
      · have hupper : 65 ≤ c.toNat ∧ c.toNat ≤ 90 := of_decide_eq_true h
        omega
      · obtain ⟨hle, hge⟩ := (Bool.and_eq_true ..).mp h
        have hle : 97 ≤ c.toNat := of_decide_eq_true hle
        have hge : c.toNat ≤ 122 := of_decide_eq_true hge
        omega
    · decide
  rw [← Bool.not_eq_true]
  intro hd
  rw [isDigit, digitValue?, Option.isSome_map, List.find?_isSome] at hd
  obtain ⟨z, hz, hr⟩ := hd
  have hzeros : ∀ z ∈ zeros, z = 48 ∨ 1632 ≤ z := by decide
  rw [Bool.and_eq_true, decide_eq_true_eq, decide_eq_true_eq] at hr
  rcases hzeros z hz with rfl | hz
  · omega
  · omega

theorem nameAt_of_not_start {d : Char} {r : List Char} (h : isNameStart d = false) :
    nameAt (d :: r) = [] := by
  simp [nameAt, h]

theorem takeSign_of_not_sign {c : Char} {r : List Char} (hp : c ≠ '+') (hm : c ≠ '-') :
    takeSign (c :: r) = ([], c :: r) := by
  simp [takeSign, hp, hm]

theorem numeralAt_of_isNameStart {c : Char} {r : List Char} (h : isNameStart c = true) :
    numeralAt (c :: r) = none := by
  cases hn : numeralAt (c :: r) with
  | none => rfl
  | some m =>
    have hsign : takeSign (c :: r) = ([], c :: r) := by
      apply takeSign_of_not_sign
      · rintro rfl
        exact absurd h (by decide)
      · rintro rfl
        exact absurd h (by decide)
    obtain ⟨a, r', hs, ha⟩ := numeralAt_head hn
    rw [hsign] at hs
    cases hs
    rcases ha with ha | rfl
    · rw [isDigit_of_isNameStart h] at ha
      cases ha
    · exact absurd h (by decide)

theorem chainAt_chainChars {names : List (List Char)} {d : Char} {r : List Char}
    (h : ∀ name ∈ names, IsName name) (hd : isBlank d = true) :
    chainAt (chainChars names ++ d :: r) = (names, (chainChars names).length) := by
  induction names with
  | nil =>
    rw [chainChars, List.flatMap_nil, List.nil_append, chainAt]
    · rfl
    · rintro r' he
      rw [(List.cons.inj he).1] at hd
      exact absurd hd (by decide)
  | cons name names ih =>
    have hname := h name (List.mem_cons_self ..)
    have ih := ih fun m hm => h m (List.mem_cons_of_mem _ hm)
    have hnext : ∃ a r', chainChars names ++ d :: r = a :: r' ∧ isWord a = false := by
      cases names with
      | nil => exact ⟨d, r, rfl, isWord_of_isBlank hd⟩
      | cons m names => exact ⟨'.', _, rfl, by decide⟩
    obtain ⟨a, r', hr', ha⟩ := hnext
    obtain ⟨b, w, hw, -⟩ := id hname
    have hread : nameAt (name ++ a :: r') = name := nameAt_of_isName hname ha
    have hchars : chainChars (name :: names) ++ d :: r = '.' :: (name ++ a :: r') := by
      rw [← hr']
      simp [chainChars]
    rw [hchars, chainAt, hread, hw]
    dsimp only
    rw [← hw, List.drop_left, ← hr', ih]
    simp only [chainChars, List.flatMap_cons, List.length_append, List.length_cons, Prod.mk.injEq,
      true_and]
    omega

/-!
Integers.
-/

theorem digitsValue_replicate_zero (zeros : Nat) (cs : List Char) :
    digitsValue (List.replicate zeros '0' ++ cs) = digitsValue cs := by
  induction zeros with
  | zero => rfl
  | succ zeros ih =>
    rw [List.replicate_succ, List.cons_append, ← ih]
    rfl

theorem digitsValue_zeros (zeros n : Nat) :
    digitsValue (List.replicate zeros '0' ++ natDigits n) = n := by
  rw [digitsValue_replicate_zero, digitsValue_natDigits]

theorem exists_isDigit_cons (zeros n : Nat) : ∃ a ds,
    List.replicate zeros '0' ++ natDigits n = a :: ds ∧ ∀ c ∈ a :: ds, c.isDigit = true := by
  obtain ⟨a, ds, h⟩ := List.exists_cons_of_ne_nil
    (l := List.replicate zeros '0' ++ natDigits n) (by simp [natDigits, Nat.toDigits_ne_nil])
  refine ⟨a, ds, h, fun c hc => ?_⟩
  rw [← h, List.mem_append, List.mem_replicate] at hc
  rcases hc with ⟨-, rfl⟩ | hc
  · decide
  · exact isDigit_natDigits c hc

/-- Digits after a sign are read as a whole number. -/
theorem numeralAt_digits {sign : Sign} {ds r : List Char} {a d : Char}
    (h : ∀ c ∈ a :: ds, c.isDigit = true) (hd : isBlank d = true) :
    numeralAt (sign.chars ++ (a :: ds ++ d :: r)) = some ⟨sign.chars, a :: ds, none, none⟩ := by
  have hsign : takeSign (sign.chars ++ (a :: ds ++ d :: r)) =
      (sign.chars, a :: ds ++ d :: r) := by
    cases sign with
    | none =>
      have ha := h a (List.mem_cons_self ..)
      apply takeSign_of_not_sign
      · rintro rfl
        exact absurd ha (by decide)
      · rintro rfl
        exact absurd ha (by decide)
    | plus => rfl
    | minus => rfl
  have hdigits : ∀ c ∈ a :: ds, isDigit c = true := fun c hc => isDigit_of_isDigit (h c hc)
  have hblank := isDigit_of_isBlank hd
  have hdrop : (takeSign (sign.chars ++ (a :: ds ++ d :: r))).2.dropWhile isDigit = d :: r := by
    rw [hsign]
    exact dropWhile_append_cons hdigits hblank
  have hnone : exponentAt (d :: r) = none := by
    rw [exponentAt, if_neg]
    rw [Bool.or_eq_true, beq_iff_eq, beq_iff_eq]
    rintro (rfl | rfl)
    · exact absurd hd (by decide)
    · exact absurd hd (by decide)
  rw [numeralAt_of_no_point, hdrop, hnone, hsign]
  · dsimp only
    rw [takeWhile_append_cons hdigits hblank]
    rfl
  · intro r' hr'
    rw [hdrop] at hr'
    rw [(List.cons.inj hr').1] at hd
    exact absurd hd (by decide)

theorem value_digits {sign : Sign} {ds : List Char} (h : ds.length ≤ digitLimit) :
    (⟨sign.chars, ds, none, none⟩ : Numeral).value = .ok (.int (sign.apply (digitsValue ds))) := by
  unfold Numeral.value
  dsimp only
  rw [if_neg (Nat.not_lt.mpr h)]
  cases sign <;> rfl

/-!
Quoted texts.
-/

theorem quotedAt_escaped_append (c : Char) (r : List Char) : ∃ k, (escaped c).length = k + 1 ∧
    quotedAt (escaped c ++ r) = (quotedAt r).map fun (s, n) => (c :: s, n + (k + 1)) := by
  unfold escaped
  split
  · next h => exact ⟨1, rfl, by rw [h]; exact quotedAt_escaped rfl⟩
  split
  · next h => exact ⟨1, rfl, by rw [h]; exact quotedAt_escaped rfl⟩
  split
  · next h => exact ⟨1, rfl, by rw [h]; exact quotedAt_escaped rfl⟩
  split
  · next h => exact ⟨1, rfl, by rw [h]; exact quotedAt_escaped rfl⟩
  split
  · next h => exact ⟨1, rfl, by rw [h]; exact quotedAt_escaped rfl⟩
  · next hb hq hn _ _ => exact ⟨0, rfl, quotedAt_plain hb hn hq⟩

theorem quotedAt_flatMap_escaped (content r : List Char) :
    quotedAt (content.flatMap escaped ++ '"' :: r) =
      .ok (content, (content.flatMap escaped).length + 1) := by
  induction content with
  | nil => exact quotedAt_quote r
  | cons c content ih =>
    obtain ⟨k, hk, hq⟩ := quotedAt_escaped_append c (content.flatMap escaped ++ '"' :: r)
    rw [List.flatMap_cons, List.append_assoc, hq, ih, List.length_append, hk]
    simp only [Except.map, Except.ok.injEq, Prod.mk.injEq, true_and]
    omega

/-!
Each spelling is read as its item.
-/

/-- A class of characters that neither the marks nor the point belong to. -/
theorem not_mem_marks {p : Char → Bool} (hp : ('.' :: marks).all (!p ·) = true) {c : Char}
    (h : p c = true) : c ∉ marks ∧ c ≠ '.' := by
  have hc : c ∉ '.' :: marks := by
    intro hm
    have := List.all_eq_true.mp hp c hm
    simp [h] at this
  rw [List.mem_cons, not_or] at hc
  exact ⟨hc.2, hc.1⟩

theorem reads_number {c : Char} {cs r : List Char} {m : Numeral} {v : Constant} (hm : c ∉ marks)
    (hp : c ≠ '.') (hnum : numeralAt (c :: (cs ++ r)) = some m) (hv : m.value = .ok v)
    (hl : m.length = cs.length + 1) : ReadsItem c (cs ++ r) (.constant v) cs.length := by
  have := ReadsItem.number hm (fun h => absurd h hp) hnum hv
  rwa [hl] at this

theorem reads_name {name : List Char} {d : Char} {r : List Char} (h : IsName name)
    (hd : isBlank d = true) : ∃ c cs, name = c :: cs ∧
      ReadsItem c (cs ++ d :: r) (wordItem name) cs.length := by
  have hread : nameAt (name ++ d :: r) = name := nameAt_of_isName h (isWord_of_isBlank hd)
  obtain ⟨c, cs, rfl, hc, hcs⟩ := h
  obtain ⟨hm, hp⟩ := not_mem_marks (by decide) hc
  exact ⟨c, cs, rfl, .word hm hp (numeralAt_of_isNameStart hc) hread (List.cons_ne_nil _ _)⟩

theorem wordItem_of_not_constant {name : List Char}
    (h : String.ofList name ∉ ["true", "false", "nil"]) :
    wordItem name = .word (String.ofList name) := by
  simp only [List.mem_cons, List.not_mem_nil, or_false, not_or] at h
  simp [wordItem, h.1, h.2.1, h.2.2]

theorem Spelling.reads {s : Spelling} (h : s.Valid) {d : Char} (hd : isBlank d = true)
    (r : List Char) : ∃ c cs, s.chars = c :: cs ∧ ReadsItem c (cs ++ d :: r) s.item cs.length := by
  cases s with
  | pipe => exact ⟨'|', [], rfl, .pipe rfl⟩
  | leftParen => exact ⟨'(', [], rfl, .leftParen rfl⟩
  | rightParen => exact ⟨')', [], rfl, .rightParen rfl⟩
  | dot =>
    -- The blank behind the point begins neither a name nor a fraction.
    have hname : nameAt (d :: r) = [] := nameAt_of_not_start (isNameStart_of_isBlank hd)
    have hchain : (chainAt ('.' :: d :: r)).1 = [] := by rw [chainAt, hname]
    refine ⟨'.', [], rfl, .dot rfl hchain ?_⟩
    rw [List.nil_append, numeralAt_of_point (r := d :: r) rfl, if_pos]
    simp [takeSign, isDigit_of_isBlank hd, show isDigit '.' = false by decide]
  | field root names =>
    obtain ⟨hnames, hne⟩ := h
    have hchain := chainAt_chainChars (r := r) hnames hd
    cases root with
    | true =>
      refine ⟨'$', chainChars names, rfl, .root rfl ?_ hchain⟩
      cases names with
      | nil => exact nameAt_of_not_start (isNameStart_of_isBlank hd)
      | cons name names => exact nameAt_of_not_start (by decide)
    | false =>
      obtain ⟨name, names, rfl⟩ := List.exists_cons_of_ne_nil (hne rfl)
      exact ⟨'.', name ++ chainChars names, rfl, .field rfl hchain (hne rfl)⟩
  | bool b =>
    cases b with
    | true => exact reads_name ⟨'t', _, rfl, by decide, List.all_eq_true.mp (by decide)⟩ hd
    | false => exact reads_name ⟨'f', _, rfl, by decide, List.all_eq_true.mp (by decide)⟩ hd
  | nil => exact reads_name ⟨'n', _, rfl, by decide, List.all_eq_true.mp (by decide)⟩ hd
  | word name =>
    rw [Spelling.item, ← wordItem_of_not_constant h.2]
    exact reads_name h.1 hd
  | int sign zeros n =>
    obtain ⟨a, ds, hds, hdigit⟩ := exists_isDigit_cons zeros n
    have hnum : numeralAt (sign.chars ++ (a :: ds ++ d :: r)) =
        some ⟨sign.chars, a :: ds, none, none⟩ := numeralAt_digits hdigit hd
    have hvalue : (⟨sign.chars, a :: ds, none, none⟩ : Numeral).value =
        .ok (.int (sign.apply n)) := by
      rw [value_digits, ← hds, digitsValue_zeros]
      rw [← hds, List.length_append, List.length_replicate]
      exact h
    rw [Spelling.chars, hds]
    cases sign with
    | none =>
      obtain ⟨hm, hp⟩ := not_mem_marks (by decide) (hdigit a (List.mem_cons_self ..))
      refine ⟨a, ds, rfl, reads_number hm hp hnum hvalue ?_⟩
      simp [Numeral.length, Sign.chars]
    | plus =>
      refine ⟨'+', a :: ds, rfl, reads_number (by decide) (by decide) hnum hvalue ?_⟩
      simp [Numeral.length, Sign.chars, Nat.add_comm]
    | minus =>
      refine ⟨'-', a :: ds, rfl, reads_number (by decide) (by decide) hnum hvalue ?_⟩
      simp [Numeral.length, Sign.chars, Nat.add_comm]
  | quoted content =>
    have := quotedAt_flatMap_escaped content (d :: r)
    refine ⟨'"', content.flatMap escaped ++ ['"'], rfl, .quoted rfl ?_⟩
    rw [List.append_assoc, List.length_append]
    exact this
  | raw content =>
    have hraw : ∀ a ∈ content, a ≠ rawQuote := by
      rintro a ha rfl
      exact h ha
    refine ⟨rawQuote, content ++ [rawQuote], rfl, .raw rfl ?_⟩
    rw [List.append_assoc, List.length_append]
    exact rawAt_of_raw hraw

end AlertRelay.Template
