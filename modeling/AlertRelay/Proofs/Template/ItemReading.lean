import AlertRelay.Proofs.Result
import AlertRelay.Proofs.Template.WordReading

/-!
The items of an action: what each begins with, and the characters that it takes. More text behind a
closing brace does not change an item, and no item ends in a minus sign, so that a minus sign before
a closing delimiter is part of the delimiter.
-/

namespace AlertRelay.Template

open AlertRelay.Number AlertRelay.Text

theorem quotedAt_quote (r : List Char) : quotedAt ('"' :: r) = .ok ([], 1) := by
  rw [quotedAt]
  · rfl
  · rintro ⟨⟩
  · rintro _ _ ⟨⟩

theorem quotedAt_escaped {c e : Char} {r : List Char} (h : escape? c = some e) :
    quotedAt ('\\' :: c :: r) = (quotedAt r).map fun (s, n) => (e :: s, n + 2) := by
  rw [quotedAt, h]

theorem quotedAt_plain {c : Char} {r : List Char} (hb : c ≠ '\\') (hn : c ≠ '\n') (hq : c ≠ '"') :
    quotedAt (c :: r) = (quotedAt r).map fun (s, n) => (c :: s, n + 1) := by
  rw [quotedAt, if_neg (by simpa using hn), if_neg (by simpa using hq)]
  · exact fun h _ => hb h
  · exact fun _ _ h _ => hb h

/-- All that can begin the rest of a quoted text that is read to its end. -/
inductive ReadsQuoted : List Char → List Char → Nat → Prop
  | quote {r} : ReadsQuoted ('"' :: r) [] 1
  | escaped {c e r s n} : escape? c = some e → ReadsQuoted r s n →
      ReadsQuoted ('\\' :: c :: r) (e :: s) (n + 2)
  | plain {c r s n} : c ≠ '\\' → c ≠ '\n' → c ≠ '"' → ReadsQuoted r s n →
      ReadsQuoted (c :: r) (c :: s) (n + 1)

theorem readsQuoted_of_quotedAt {cs s : List Char} {n : Nat} (h : quotedAt cs = .ok (s, n)) :
    ReadsQuoted cs s n := by
  fun_induction quotedAt cs generalizing s n with
  | case1 | case2 | case3 | case5 => cases h
  | case4 c r e he ih =>
    obtain ⟨⟨s', n'⟩, hr, hx⟩ := map_eq_ok h
    cases hx
    exact .escaped he (ih hr)
  | case6 c r _ _ _ hq =>
    cases h
    rw [beq_iff_eq.mp hq]
    exact .quote
  | case7 c r hnil hcons hn hq ih =>
    obtain ⟨⟨s', n'⟩, hr, hx⟩ := map_eq_ok h
    cases hx
    refine .plain ?_ (by simpa using hn) (by simpa using hq) (ih hr)
    rintro rfl
    cases r with
    | nil => exact hnil rfl rfl
    | cons a r => exact hcons a r rfl rfl

theorem ReadsQuoted.quotedAt_append {cs s : List Char} {n : Nat} (h : ReadsQuoted cs s n)
    (ds : List Char) : quotedAt (cs ++ ds) = .ok (s, n) := by
  induction h with
  | quote => exact quotedAt_quote _
  | escaped he _ ih =>
    rw [List.cons_append, List.cons_append, quotedAt_escaped he, ih]
    rfl
  | plain hb hn hq _ ih =>
    rw [List.cons_append, quotedAt_plain hb hn hq, ih]
    rfl

theorem ReadsQuoted.split {cs s : List Char} {n : Nat} (h : ReadsQuoted cs s n) :
    ∃ body r, cs = body ++ '"' :: r ∧ n = body.length + 1 := by
  induction h with
  | @quote r => exact ⟨[], r, rfl, rfl⟩
  | @escaped c e _ _ _ he _ ih =>
    obtain ⟨body, r, rfl, rfl⟩ := ih
    exact ⟨'\\' :: c :: body, r, rfl, rfl⟩
  | @plain c _ _ _ hb hn hq _ ih =>
    obtain ⟨body, r, rfl, rfl⟩ := ih
    exact ⟨c :: body, r, rfl, rfl⟩

theorem rawAt_split {cs s : List Char} {n : Nat} (h : rawAt cs = .ok (s, n)) :
    n = s.length + 1 ∧ (∀ a ∈ s, a ≠ rawQuote) ∧ ∃ r, cs = s ++ rawQuote :: r := by
  unfold rawAt at h
  dsimp only at h
  split at h
  · next hl =>
    cases h
    have hcs := List.takeWhile_append_dropWhile (p := (· != rawQuote)) (l := cs)
    refine ⟨rfl, fun a ha => by simpa using all_of_mem_takeWhile ha, ?_⟩
    match hd : cs.dropWhile (· != rawQuote) with
    | [] =>
      rw [hd, List.append_nil] at hcs
      rw [hcs] at hl
      exact absurd hl (Nat.lt_irrefl _)
    | c :: r =>
      have hc := head_dropWhile hd
      rw [hd] at hcs
      simp only [bne_eq_false_iff_eq] at hc
      subst hc
      exact ⟨r, hcs.symm⟩
  · cases h

theorem rawAt_of_raw {s r : List Char} (h : ∀ a ∈ s, a ≠ rawQuote) :
    rawAt (s ++ rawQuote :: r) = .ok (s, s.length + 1) := by
  have ht : (s ++ rawQuote :: r).takeWhile (· != rawQuote) = s :=
    takeWhile_append_cons (fun a ha => by simpa using h a ha) (by simp)
  unfold rawAt
  simp only [ht]
  rw [if_pos (by simp)]

theorem rawAt_append {cs ds : List Char} {x : List Char × Nat} (h : rawAt cs = .ok x) :
    rawAt (cs ++ ds) = .ok x := by
  obtain ⟨s, n⟩ := x
  obtain ⟨rfl, hs, r, rfl⟩ := rawAt_split h
  rw [List.append_assoc, List.cons_append, rawAt_of_raw hs]

/-- The characters that tell at once what begins with them. -/
def marks : List Char := ['|', '(', ')', '"', rawQuote, '$']

/-- All that can begin with the character `c`, followed by `r`: the item, and how many characters of
`r` belong to it. -/
inductive ReadsItem (c : Char) (r : List Char) : Item → Nat → Prop
  | pipe : c = '|' → ReadsItem c r .pipe 0
  | leftParen : c = '(' → ReadsItem c r .leftParen 0
  | rightParen : c = ')' → ReadsItem c r .rightParen 0
  | quoted {s n} : c = '"' → quotedAt r = .ok (s, n) →
      ReadsItem c r (.constant (.text (String.ofList s))) n
  | raw {s n} : c = rawQuote → rawAt r = .ok (s, n) →
      ReadsItem c r (.constant (.text (String.ofList s))) n
  | root {names n} : c = '$' → nameAt r = [] → chainAt r = (names, n) →
      ReadsItem c r (.field true (names.map String.ofList)) n
  | field {names n} : c = '.' → chainAt (c :: r) = (names, n) → names ≠ [] →
      ReadsItem c r (.field false (names.map String.ofList)) (n - 1)
  | dot : c = '.' → (chainAt (c :: r)).1 = [] → numeralAt (c :: r) = none → ReadsItem c r .dot 0
  | number {n v} : c ∉ marks → (c = '.' → (chainAt (c :: r)).1 = []) →
      numeralAt (c :: r) = some n → n.value = .ok v → ReadsItem c r (.constant v) (n.length - 1)
  | word {name} : c ∉ marks → c ≠ '.' → numeralAt (c :: r) = none → nameAt (c :: r) = name →
      name ≠ [] → ReadsItem c r (wordItem name) (name.length - 1)

variable {c : Char} {r : List Char} {item : Item} {n : Nat}

theorem itemAt_of_no_mark (h : c ∉ marks) (hc : c ≠ '.') : itemAt c r = numberOrWord c r := by
  simp only [marks, List.mem_cons, List.not_mem_nil, or_false, not_or] at h
  obtain ⟨h₁, h₂, h₃, h₄, h₅, h₆⟩ := h
  simp [itemAt, h₁, h₂, h₃, h₄, h₅, h₆, hc]

theorem itemAt_quote (r : List Char) : itemAt '"' r =
    match quotedAt r with
    | .ok (s, n) => .ok (.constant (.text (String.ofList s)), n)
    | .error e => .error (.flaw e) := rfl

theorem itemAt_rawQuote (r : List Char) : itemAt rawQuote r =
    match rawAt r with
    | .ok (s, n) => .ok (.constant (.text (String.ofList s)), n)
    | .error e => .error (.flaw e) := rfl

theorem itemAt_root (r : List Char) : itemAt '$' r =
    match nameAt r with
    | name@(_ :: _) => .error (.flaw (.variable (String.ofList name)))
    | [] => .ok (.field true ((chainAt r).1.map String.ofList), (chainAt r).2) := rfl

theorem itemAt_point (r : List Char) : itemAt '.' r =
    match chainAt ('.' :: r) with
    | (names@(_ :: _), n) => .ok (.field false (names.map String.ofList), n - 1)
    | ([], _) =>
      match numeralAt ('.' :: r) with
      | none => .ok (.dot, 0)
      | some _ => numberOrWord '.' r := rfl

theorem numberOrWord_of_numeral {m : Numeral} (h : numeralAt (c :: r) = some m) :
    numberOrWord c r =
      match m.value with
      | .ok v => .ok (.constant v, m.length - 1)
      | .error e => .error (.limit e) := by
  cases hv : m.value with
  | error e => simp only [numberOrWord, h, hv]
  | ok v => simp only [numberOrWord, h, hv]

theorem numberOrWord_of_name (h : numeralAt (c :: r) = none) (hn : nameAt (c :: r) ≠ []) :
    numberOrWord c r = .ok (wordItem (nameAt (c :: r)), (nameAt (c :: r)).length - 1) := by
  unfold numberOrWord
  rw [h]
  dsimp only
  split
  · next he => exact absurd he hn
  · rfl

theorem numberOrWord_of_stray (h : numeralAt (c :: r) = none) (hn : nameAt (c :: r) = []) :
    ∃ f, numberOrWord c r = .error (.flaw f) := by
  unfold numberOrWord
  rw [h, hn]
  dsimp only
  split
  · exact ⟨_, rfl⟩
  · exact ⟨_, rfl⟩

theorem readsItem_of_numberOrWord (hm : c ∉ marks) (hc : c = '.' →
    (chainAt (c :: r)).1 = [] ∧ numeralAt (c :: r) ≠ none)
    (h : numberOrWord c r = .ok (item, n)) : ReadsItem c r item n := by
  cases hnum : numeralAt (c :: r) with
  | some m =>
    rw [numberOrWord_of_numeral hnum] at h
    split at h
    · next v hv =>
      cases h
      exact .number hm (fun hp => (hc hp).1) hnum hv
    · cases h
  | none =>
    by_cases hn : nameAt (c :: r) = []
    · obtain ⟨f, hf⟩ := numberOrWord_of_stray hnum hn
      rw [hf] at h
      cases h
    · rw [numberOrWord_of_name hnum hn] at h
      cases h
      exact .word hm (fun hp => (hc hp).2 hnum) hnum rfl hn

theorem readsItem_of_itemAt (h : itemAt c r = .ok (item, n)) : ReadsItem c r item n := by
  by_cases hm : c ∈ marks
  · simp only [marks, List.mem_cons, List.not_mem_nil, or_false] at hm
    rcases hm with rfl | rfl | rfl | rfl | rfl | rfl
    · cases h
      exact .pipe rfl
    · cases h
      exact .leftParen rfl
    · cases h
      exact .rightParen rfl
    · rw [itemAt_quote] at h
      split at h
      · next hq =>
        cases h
        exact .quoted rfl hq
      · cases h
    · rw [itemAt_rawQuote] at h
      split at h
      · next hq =>
        cases h
        exact .raw rfl hq
      · cases h
    · rw [itemAt_root] at h
      split at h
      · cases h
      · next hn =>
        cases h
        exact .root rfl hn rfl
  · by_cases hc : c = '.'
    · subst hc
      rw [itemAt_point] at h
      split at h
      · next hch =>
        cases h
        exact .field rfl hch (List.cons_ne_nil _ _)
      · next hch =>
        split at h
        · next hnum =>
          cases h
          exact .dot rfl (by rw [hch]) hnum
        · next hnum =>
          exact readsItem_of_numberOrWord hm (fun _ => ⟨by rw [hch], by simp [hnum]⟩) h
    · rw [itemAt_of_no_mark hm hc] at h
      exact readsItem_of_numberOrWord hm (fun hp => absurd hp hc) h

theorem itemAt_of_readsItem (h : ReadsItem c r item n) : itemAt c r = .ok (item, n) := by
  cases h with
  | pipe hc | leftParen hc | rightParen hc =>
    subst hc
    rfl
  | quoted hc hq =>
    subst hc
    simp [itemAt, hq]
  | raw hc hq =>
    subst hc
    simp [itemAt, hq, rawQuote]
  | root hc hn hch =>
    subst hc
    simp [itemAt, rawQuote, hn, hch]
  | field hc hch hne =>
    subst hc
    obtain ⟨name, names, rfl⟩ := List.exists_cons_of_ne_nil hne
    rw [itemAt_point, hch]
  | dot hc hch hnum =>
    subst hc
    rw [itemAt_point, hnum]
    split
    · next he =>
      rw [he] at hch
      cases hch
    · rfl
  | @number m v hm hch hnum hv =>
    have hread : numberOrWord c r = .ok (.constant v, m.length - 1) := by
      rw [numberOrWord_of_numeral hnum, hv]
    by_cases hc : c = '.'
    · subst hc
      rw [itemAt_point, hnum]
      split
      · next he =>
        have := hch rfl
        rw [he] at this
        cases this
      · exact hread
    · rw [itemAt_of_no_mark hm hc, hread]
  | word hm hc hnum hname hne =>
    subst hname
    rw [itemAt_of_no_mark hm hc, numberOrWord_of_name hnum hne]

theorem numeralAt_head {cs : List Char} {m : Numeral} (h : numeralAt cs = some m) :
    ∃ a r, (takeSign cs).2 = a :: r ∧ (isDigit a = true ∨ a = '.') := by
  cases hs : (takeSign cs).2 with
  | nil =>
    have hne : ∀ r, (takeSign cs).2.dropWhile isDigit ≠ '.' :: r := by simp [hs]
    rw [numeralAt_of_no_point hne, hs] at h
    cases h
  | cons a r =>
    refine ⟨a, r, rfl, Classical.byContradiction fun hn => ?_⟩
    rw [not_or, Bool.not_eq_true] at hn
    have hd : (takeSign cs).2.dropWhile isDigit = a :: r := by simp [hs, hn.1]
    have hne : ∀ r, (takeSign cs).2.dropWhile isDigit ≠ '.' :: r := by
      intro r' he
      rw [hd] at he
      exact hn.2 (List.cons.inj he).1
    rw [numeralAt_of_no_point hne, hs, List.takeWhile_cons_of_neg (by simp [hn.1])] at h
    cases h

/-- All that an item can begin with: a mark, a point, a digit, a letter or an underscore, or a sign
before a digit or a point. -/
theorem ReadsItem.head (h : ReadsItem c r item n) :
    c ∈ marks ∨ c = '.' ∨ isDigit c = true ∨ isNameStart c = true ∨
      (c = '+' ∨ c = '-') ∧ ∃ a ∈ r.head?, isDigit a = true ∨ a = '.' := by
  cases h with
  | pipe hc | leftParen hc | rightParen hc | quoted hc | raw hc | root hc =>
    refine .inl ?_
    rw [hc]
    decide
  | field hc | dot hc => exact .inr (.inl hc)
  | number hm hch hnum hv =>
    obtain ⟨a, r', hs, ha⟩ := numeralAt_head hnum
    rw [takeSign] at hs
    split at hs
    · next hc =>
      refine .inr (.inr (.inr (.inr ⟨by simpa using hc, a, ?_, ha⟩)))
      dsimp only at hs
      rw [hs]
      rfl
    · cases hs
      exact .inr (ha.elim (fun hd => .inr (.inl hd)) .inl)
  | word hm hc hnum hname hne =>
    obtain ⟨a, w, rfl⟩ := List.exists_cons_of_ne_nil hne
    obtain ⟨⟨a', w', he, ha, -⟩, r', hr'⟩ := nameAt_eq_cons hname
    cases he
    cases hr'
    exact .inr (.inr (.inr (.inl ha)))

/-- A character that is none of those does not begin an item. -/
theorem ReadsItem.head_ne {a : Char} (h : ReadsItem c r item n) (ha : a ∉ marks ∧ a ≠ '.' ∧
    isDigit a = false ∧ isNameStart a = false ∧ a ≠ '+' ∧ a ≠ '-') : c ≠ a := by
  rintro rfl
  obtain ⟨hm, hp, hd, hn, hplus, hminus⟩ := ha
  rcases h.head with h | h | h | h | ⟨h | h, -⟩
  · exact hm h
  · exact hp h
  · rw [hd] at h
    cases h
  · rw [hn] at h
    cases h
  · exact hplus h
  · exact hminus h

theorem ReadsItem.not_isBlank (h : ReadsItem c r item n) : isBlank c = false := by
  rw [← Bool.not_eq_true]
  intro hb
  have hq : [' ', '\t', '\r', '\n'].all (fun a => decide (a ∉ marks ∧ a ≠ '.' ∧
      isDigit a = false ∧ isNameStart a = false ∧ a ≠ '+' ∧ a ≠ '-')) = true := by decide
  exact h.head_ne (of_decide_eq_true (List.all_eq_true.mp hq c (isBlank_iff.mp hb))) rfl

/-- More text behind a closing brace leaves an item as it is. -/
theorem ReadsItem.append (h : ReadsItem c r item n) (hr : closeBrace ∈ r) (ds : List Char) :
    ReadsItem c (r ++ ds) item n := by
  have hcr : closeBrace ∈ c :: r := List.mem_cons_of_mem c hr
  have hchain : chainAt (c :: (r ++ ds)) = chainAt (c :: r) := chainAt_append hcr
  have hnumeral : numeralAt (c :: (r ++ ds)) = numeralAt (c :: r) := numeralAt_append hcr
  have hname : nameAt (c :: (r ++ ds)) = nameAt (c :: r) := nameAt_append hcr
  cases h with
  | pipe hc => exact .pipe hc
  | leftParen hc => exact .leftParen hc
  | rightParen hc => exact .rightParen hc
  | quoted hc hq => exact .quoted hc ((readsQuoted_of_quotedAt hq).quotedAt_append ds)
  | raw hc hq => exact .raw hc (rawAt_append hq)
  | root hc hn hch =>
    exact .root hc (by rw [nameAt_append hr, hn]) (by rw [chainAt_append hr, hch])
  | field hc hch hne => exact .field hc (by rw [hchain, hch]) hne
  | dot hc hch hnum => exact .dot hc (by rw [hchain, hch]) (by rw [hnumeral, hnum])
  | number hm hch hnum hv =>
    exact .number hm (fun hc => by rw [hchain, hch hc]) (by rw [hnumeral, hnum]) hv
  | word hm hc hnum hn hne =>
    exact .word hm hc (by rw [hnumeral, hnum]) (by rw [hname, hn]) hne

/-- The characters of an item: at least one, the last of them no minus sign. -/
structure IsSpelling (spelling : List Char) : Prop where
  ne_nil : spelling ≠ []
  last : spelling.getLast? ≠ some '-'

theorem IsSpelling.of_last {cs : List Char} {a : Char} (ha : cs.getLast? = some a)
    (hne : a ≠ '-') : IsSpelling cs where
  ne_nil := by
    rintro rfl
    cases ha
  last := by
    rw [ha]
    exact fun h => hne (Option.some.inj h)

theorem IsSpelling.of_forall {cs : List Char} (hne : cs ≠ []) (h : ∀ a ∈ cs, a ≠ '-') :
    IsSpelling cs :=
  .of_last (List.getLast?_eq_some_getLast hne) (h _ (List.getLast_mem hne))

theorem IsName.isSpelling {name : List Char} (h : IsName name) : IsSpelling name := by
  obtain ⟨a, w, rfl, ha, hw⟩ := h
  refine .of_forall (List.cons_ne_nil a w) ?_
  rintro b hb rfl
  rcases List.mem_cons.mp hb with rfl | hb
  · exact absurd ha (by decide)
  · have := hw _ hb
    rw [isWord_minus] at this
    cases this

theorem EndsNumber.isSpelling {cs : List Char} (h : EndsNumber cs) : IsSpelling cs := by
  obtain ⟨a, ha, hd⟩ := h
  refine .of_last ha ?_
  rintro rfl
  rcases hd with hd | hd
  · rw [isDigit_minus] at hd
    cases hd
  · exact absurd hd (by decide)

theorem IsSpelling.append {ds : List Char} (h : IsSpelling ds) (cs : List Char) :
    IsSpelling (cs ++ ds) where
  ne_nil := fun he => h.ne_nil (List.append_eq_nil_iff.mp he).2
  last := by
    rw [List.getLast?_append, List.getLast?_eq_some_getLast h.ne_nil]
    exact fun he => h.last (by rw [List.getLast?_eq_some_getLast h.ne_nil]; exact he)

theorem isSpelling_chain {names : List (List Char)} (hne : names ≠ [])
    (h : ∀ name ∈ names, IsName name) : IsSpelling (chainChars names) := by
  induction names with
  | nil => exact absurd rfl hne
  | cons name names ih =>
    have hname : IsSpelling ('.' :: name) :=
      (h name (List.mem_cons_self ..)).isSpelling.append ['.']
    rw [chainChars, List.flatMap_cons]
    by_cases hn : names = []
    · subst hn
      rwa [List.flatMap_nil, List.append_nil]
    · exact (ih hn fun m hm => h m (List.mem_cons_of_mem _ hm)).append _

/-- An item stands at the head of the text it is read from. -/
theorem ReadsItem.split (h : ReadsItem c r item n) :
    ∃ w r', c :: r = w ++ r' ∧ w.length = n + 1 ∧ IsSpelling w := by
  cases h with
  | pipe hc | leftParen hc | rightParen hc =>
    exact ⟨[c], r, rfl, rfl, .of_last rfl (by rw [hc]; decide)⟩
  | quoted hc hq =>
    obtain ⟨body, r', rfl, rfl⟩ := (readsQuoted_of_quotedAt hq).split
    exact ⟨c :: (body ++ ['"']), r', by simp, by simp,
      (IsSpelling.of_last rfl (by decide)).append (c :: body)⟩
  | @raw s _ hc hq =>
    obtain ⟨rfl, -, r', rfl⟩ := rawAt_split hq
    exact ⟨c :: (s ++ [rawQuote]), r', by simp, by simp,
      (IsSpelling.of_last rfl (by decide)).append (c :: s)⟩
  | @root names _ hc hn hch =>
    obtain ⟨rfl, hall, r', rfl⟩ := chainAt_spec hch
    refine ⟨c :: chainChars names, r', rfl, rfl, ?_⟩
    by_cases hne : names = []
    · subst hne
      exact .of_last rfl (by rw [hc]; decide)
    · exact (isSpelling_chain hne hall).append [c]
  | @field names _ hc hch hne =>
    obtain ⟨rfl, hall, r', hr'⟩ := chainAt_spec hch
    have hs := isSpelling_chain hne hall
    have := List.length_pos_iff.mpr hs.ne_nil
    exact ⟨chainChars names, r', hr', by omega, hs⟩
  | dot hc => exact ⟨[c], r, rfl, rfl, .of_last rfl (by rw [hc]; decide)⟩
  | @number m _ hm hch hnum hv =>
    obtain ⟨-, f, r', hr', hends, hlen⟩ := numeralAt_eq_some hnum
    have hs := hends.isSpelling.append m.sign
    have := List.length_pos_iff.mpr hs.ne_nil
    exact ⟨m.sign ++ (m.whole ++ f), r', hr', by omega, hs⟩
  | @word name hm hc hnum hname hne =>
    obtain ⟨a, w, rfl⟩ := List.exists_cons_of_ne_nil hne
    obtain ⟨hisName, r', hr'⟩ := nameAt_eq_cons hname
    exact ⟨a :: w, r', hr', rfl, hisName.isSpelling⟩

theorem value_eq_error {m : Numeral} {e : LimitError} (h : m.value = .error e) :
    digitLimit < m.whole.length := by
  unfold Numeral.value at h
  dsimp only at h
  split at h
  · split at h
    · assumption
    · cases h
  · cases h

theorem numberOrWord_eq_limit {e : LimitError} (h : numberOrWord c r = .error (.limit e)) :
    ∃ m, numeralAt (c :: r) = some m ∧ m.value = .error e := by
  cases hnum : numeralAt (c :: r) with
  | some m =>
    rw [numberOrWord_of_numeral hnum] at h
    split at h
    · cases h
    · next e' hv =>
      cases h
      exact ⟨m, rfl, hv⟩
  | none =>
    by_cases hn : nameAt (c :: r) = []
    · obtain ⟨f, hf⟩ := numberOrWord_of_stray hnum hn
      rw [hf] at h
      cases h
    · rw [numberOrWord_of_name hnum hn] at h
      cases h

/-- Only a number can be refused for its length. -/
theorem numberOrWord_of_limit {e : LimitError} (h : itemAt c r = .error (.limit e)) :
    numberOrWord c r = .error (.limit e) := by
  by_cases hm : c ∈ marks
  · simp only [marks, List.mem_cons, List.not_mem_nil, or_false] at hm
    rcases hm with rfl | rfl | rfl | rfl | rfl | rfl
    · cases h
    · cases h
    · cases h
    · rw [itemAt_quote] at h
      split at h <;> cases h
    · rw [itemAt_rawQuote] at h
      split at h <;> cases h
    · rw [itemAt_root] at h
      split at h <;> cases h
  · by_cases hc : c = '.'
    · subst hc
      rw [itemAt_point] at h
      split at h
      · cases h
      · split at h
        · cases h
        · exact h
    · rwa [itemAt_of_no_mark hm hc] at h

/-- A run of more digits than an integer may have. -/
def HasLongRun (cs : List Char) : Prop :=
  ∃ ds, ds <:+: cs ∧ (∀ a ∈ ds, isDigit a = true) ∧ digitLimit < ds.length

theorem HasLongRun.mono {cs ds : List Char} (h : HasLongRun cs) (hi : cs <:+: ds) :
    HasLongRun ds := by
  obtain ⟨run, hrun, hd, hl⟩ := h
  exact ⟨run, hrun.trans hi, hd, hl⟩

theorem hasLongRun_of_itemAt {e : LimitError} (h : itemAt c r = .error (.limit e)) :
    HasLongRun (c :: r) := by
  obtain ⟨m, hm, hv⟩ := numberOrWord_eq_limit (numberOrWord_of_limit h)
  obtain ⟨hd, f, r', hr', -, -⟩ := numeralAt_eq_some hm
  refine ⟨m.whole, ⟨m.sign, f ++ r', ?_⟩, hd, value_eq_error hv⟩
  rw [hr']
  simp

end AlertRelay.Template
