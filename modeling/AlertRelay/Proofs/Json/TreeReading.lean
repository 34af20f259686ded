import AlertRelay.Proofs.Json.Scanning

/-!
The reader takes the text of a value from the head of what it is given, whatever follows it, and
refuses it only for a whole number that is too long. What it takes is the text of a value.
-/

namespace AlertRelay.Json

open AlertRelay.Number AlertRelay.Number.Double AlertRelay.Text

/-!
Blanks.
-/

theorem skipBlanks_append {b r : List Char} (hb : AllBlank b)
    (hr : ∀ c ∈ r.head?, isBlank c = false) : skipBlanks (b ++ r) = r :=
  dropWhile_append_stop hb hr

theorem exists_skipBlanks (cs : List Char) : ∃ b, AllBlank b ∧ cs = b ++ skipBlanks cs :=
  ⟨cs.takeWhile isBlank, fun _ => List.mem_takeWhile_imp, List.takeWhile_append_dropWhile.symm⟩

/-- Behind a value within another stand blanks, and then a comma or what closes the outer one. -/
theorem stops_of_allBlank {b r : List Char} {c : Char} (hb : AllBlank b)
    (hc : c = ',' ∨ c = ']' ∨ c = '\x7d') : Stops (b ++ c :: r) := by
  cases b with
  | nil =>
    rintro d ⟨⟩
    obtain rfl | rfl | rfl := hc <;> decide
  | cons a b =>
    rintro d ⟨⟩
    have ha := hb a (by simp)
    simp only [isBlank, Bool.or_eq_true, beq_iff_eq] at ha
    obtain ((rfl | rfl) | rfl) | rfl := ha <;> decide

/-!
Words and numbers.
-/

/-- A number begins with a digit, or with a minus and a digit. -/
theorem IsNumber.head {n : List Char} (h : IsNumber n) :
    ∃ c r, isDecimalDigit c = true ∧ (n = c :: r ∨ n = '-' :: c :: r) := by
  obtain ⟨hs, hw, _, _⟩ := h
  obtain ⟨c, ds, rfl, hc⟩ := hw.isDigits.head
  obtain rfl | rfl := hs
  · exact ⟨c, _, hc, .inl rfl⟩
  · exact ⟨c, _, hc, .inr rfl⟩

theorem find?_word {w : String} {t : Tree} (h : (w, t) ∈ words) (r : List Char) :
    (words.find? fun w' => startsWith w'.1.toList (w.toList ++ r)) = some (w, t) := by
  simp only [words, List.mem_cons, List.not_mem_nil, or_false, Prod.mk.injEq] at h
  rcases h with ⟨rfl, rfl⟩ | ⟨rfl, rfl⟩ | ⟨rfl, rfl⟩ | ⟨rfl, rfl⟩ | ⟨rfl, rfl⟩ | ⟨rfl, rfl⟩ <;>
  simp [words, startsWith]

theorem find?_number {n : List Char} (h : IsNumber n) (r : List Char) :
    (words.find? fun w => startsWith w.1.toList (n ++ r)) = none := by
  obtain ⟨c, n, hc, hn⟩ := h.head
  have hne (a : Char) (ha : isDecimalDigit a = false) : a ≠ c := by
    rintro rfl
    rw [ha] at hc
    cases hc
  obtain rfl | rfl := hn
  · simp [words, startsWith, hne 'n' rfl, hne 't' rfl, hne 'f' rfl, hne 'N' rfl, hne 'I' rfl,
      hne '-' rfl]
  · simp [words, startsWith, hne 'I' rfl]

theorem readPlain_word {w : String} {t : Tree} (h : (w, t) ∈ words) (r : List Char) :
    readPlain (w.toList ++ r) = some (t, r) := by
  rw [readPlain, find?_word h]
  dsimp only
  rw [← String.length_toList, List.drop_left]

theorem readPlain_number {n r : List Char} (h : IsNumber n) (hr : Stops r) :
    readPlain (n ++ r) = if isLong n then none else some (.number n, r) := by
  rw [readPlain, find?_number h, h.read hr]
  dsimp only
  split <;> rfl

theorem head_digit {c : Char} (h : isDecimalDigit c = true) :
    isBlank c = false ∧ c ≠ '"' ∧ c ≠ '[' ∧ c ≠ ']' ∧ c ≠ '\x7b' := by
  refine ⟨?_, ?_, ?_, ?_, ?_⟩
  · rw [Bool.eq_false_iff]
    intro hb
    simp only [isBlank, Bool.or_eq_true, beq_iff_eq] at hb
    obtain ((rfl | rfl) | rfl) | rfl := hb <;> cases h
  all_goals
    rintro rfl
    cases h

theorem head_number {n : List Char} (h : IsNumber n) :
    ∃ c r, n = c :: r ∧ isBlank c = false ∧ c ≠ '"' ∧ c ≠ '[' ∧ c ≠ ']' ∧ c ≠ '\x7b' := by
  obtain ⟨c, r, hc, rfl | rfl⟩ := h.head
  · exact ⟨c, r, rfl, head_digit hc⟩
  · exact ⟨_, _, rfl, by decide⟩

/-- A word is no whole number, and begins with none of the marks that other values begin with. -/
theorem head_word {w : String} {t : Tree} (h : (w, t) ∈ words) :
    ∃ c r, w.toList = c :: r ∧ isBlank c = false ∧ c ≠ '"' ∧ c ≠ '[' ∧ c ≠ ']' ∧ c ≠ '\x7b' := by
  simp only [words, List.mem_cons, List.not_mem_nil, or_false, Prod.mk.injEq] at h
  rcases h with ⟨rfl, rfl⟩ | ⟨rfl, rfl⟩ | ⟨rfl, rfl⟩ | ⟨rfl, rfl⟩ | ⟨rfl, rfl⟩ | ⟨rfl, rfl⟩ <;>
  exact ⟨_, _, String.toList_ofList, by decide⟩

theorem holdsLong_word {w : String} {t : Tree} (h : (w, t) ∈ words) : t.holdsLong = false := by
  simp only [words, List.mem_cons, List.not_mem_nil, or_false, Prod.mk.injEq] at h
  rcases h with ⟨rfl, rfl⟩ | ⟨rfl, rfl⟩ | ⟨rfl, rfl⟩ | ⟨rfl, rfl⟩ | ⟨rfl, rfl⟩ | ⟨rfl, rfl⟩ <;>
  simp [Tree.holdsLong, isLong, isDecimalDigit]

theorem readTree_plain {c : Char} (hq : c ≠ '"') (hl : c ≠ '[') (ho : c ≠ '\x7b') (fuel : Nat)
    (r : List Char) : readTree (fuel + 1) (c :: r) = readPlain (c :: r) := by
  rw [readTree] <;>
  · rintro r' heq
    cases heq
    contradiction

theorem readTree_text {w s : List Char} (h : IsText w s) (fuel : Nat) (r : List Char) :
    readTree (fuel + 1) ('"' :: (w ++ '"' :: r)) = some (.text s, r) := by
  rw [readTree, h.read]
  rfl

theorem readTree_emptyList {b : List Char} (h : AllBlank b) (fuel : Nat) (r : List Char) :
    readTree (fuel + 1) ('[' :: (b ++ ']' :: r)) = some (.list [], r) := by
  rw [readTree, skipBlanks_append h (by rintro c ⟨⟩; rfl)]
  rfl

theorem readTree_list {b : List Char} {c : Char} (h : AllBlank b) (hc : isBlank c = false)
    (hend : c ≠ ']') (fuel : Nat) (r : List Char) :
    readTree (fuel + 1) ('[' :: (b ++ c :: r)) =
      (readItems fuel (c :: r)).map fun p => (.list p.1, p.2) := by
  rw [readTree, skipBlanks_append h (by rintro c ⟨⟩; exact hc)]
  split
  · next heq =>
    cases heq
    exact absurd rfl hend
  · rfl

theorem readTree_emptyObject {b : List Char} (h : AllBlank b) (fuel : Nat) (r : List Char) :
    readTree (fuel + 1) ('\x7b' :: (b ++ '\x7d' :: r)) = some (.object [], r) := by
  rw [readTree, skipBlanks_append h (by rintro c ⟨⟩; rfl)]
  rfl

theorem readTree_object {b : List Char} (h : AllBlank b) (fuel : Nat) (r : List Char) :
    readTree (fuel + 1) ('\x7b' :: (b ++ '"' :: r)) =
      (readMembers fuel ('"' :: r)).map fun p => (.object p.1, p.2) := by
  rw [readTree, skipBlanks_append h (by rintro c ⟨⟩; rfl)]
  rfl

theorem IsValue.head {o : List Char} {t : Tree} (h : IsValue o t) :
    ∃ c r, o = c :: r ∧ isBlank c = false ∧ c ≠ ']' := by
  cases h with
  | word h =>
    obtain ⟨c, r, hw, hb, -, -, hc, -⟩ := head_word h
    exact ⟨c, r, hw, hb, hc⟩
  | number h =>
    obtain ⟨c, r, hn, hb, -, -, hc, -⟩ := head_number h
    exact ⟨c, r, hn, hb, hc⟩
  | text _ | emptyList _ | list _ _ | emptyObject _ | object _ _ =>
    exact ⟨_, _, rfl, rfl, by decide⟩

theorem IsItems.head {o : List Char} {ts : List Tree} (h : IsItems o ts) :
    ∃ c r, o = c :: r ∧ isBlank c = false ∧ c ≠ ']' := by
  cases h with
  | last h _ | more h _ _ _ =>
    obtain ⟨c, r, rfl, hc⟩ := h.head
    exact ⟨c, _, rfl, hc⟩

theorem IsMembers.head {o : List Char} {ms : List (List Char × Tree)} (h : IsMembers o ms) :
    ∃ r, o = '"' :: r := by
  cases h with
  | last h _ | more h _ _ _ =>
    cases h
    exact ⟨_, rfl⟩

/-!
What the grammar calls a value is read. The fuel is the length of the text: each part of a value
leaves at least one character to what is around it.
-/

mutual

theorem IsValue.read {o : List Char} {t : Tree} (h : IsValue o t) (fuel : Nat) (r : List Char)
    (hf : o.length ≤ fuel) (hr : ∀ n, t = .number n → Stops r) :
    readTree fuel (o ++ r) = if t.holdsLong then none else some (t, r) := by
  obtain ⟨fuel, rfl⟩ : ∃ f, fuel = f + 1 := by
    obtain ⟨c, r', rfl, -⟩ := h.head
    exact Nat.exists_eq_add_one_of_ne_zero (by simp at hf; omega)
  match h with
  | .word h =>
    obtain ⟨c, w', hw, -, hq, hl, -, ho⟩ := head_word h
    rw [holdsLong_word h, hw, List.cons_append, readTree_plain hq hl ho, ← List.cons_append, ← hw,
      readPlain_word h]
    rfl
  | .number h =>
    obtain ⟨c, n', hn, -, hq, hl, -, ho⟩ := head_number h
    rw [hn, List.cons_append, readTree_plain hq hl ho, ← List.cons_append, ← hn,
      readPlain_number h (hr _ rfl), Tree.holdsLong]
  | .text h => simpa [Tree.holdsLong] using readTree_text h fuel r
  | .emptyList hb => simpa [Tree.holdsLong, itemsHoldLong] using readTree_emptyList hb fuel r
  | .list hb h =>
    have hread := h.read fuel r (by simp at hf; omega)
    obtain ⟨c, r', ho, hc, hend⟩ := h.head
    rw [List.cons_append, List.append_assoc, ho, List.cons_append, readTree_list hb hc hend,
      ← List.cons_append, ← ho, hread, Tree.holdsLong]
    split <;> rfl
  | .emptyObject hb =>
    simpa [Tree.holdsLong, membersHoldLong] using readTree_emptyObject hb fuel r
  | .object hb h =>
    have hread := h.read fuel r (by simp at hf; omega)
    obtain ⟨r', ho⟩ := h.head
    rw [List.cons_append, List.append_assoc, ho, List.cons_append, readTree_object hb,
      ← List.cons_append, ← ho, hread, Tree.holdsLong]
    split <;> rfl

theorem IsItems.read {o : List Char} {ts : List Tree} (h : IsItems o ts) (fuel : Nat)
    (r : List Char) (hf : o.length ≤ fuel) :
    readItems fuel (o ++ r) = if itemsHoldLong ts then none else some (ts, r) := by
  obtain ⟨fuel, rfl⟩ : ∃ f, fuel = f + 1 := by
    obtain ⟨c, r', rfl, -⟩ := h.head
    exact Nat.exists_eq_add_one_of_ne_zero (by simp at hf; omega)
  match h with
  | @IsItems.last o t b h hb =>
    have hread := h.read fuel (b ++ ']' :: r) (by simp at hf; omega)
      fun _ _ => stops_of_allBlank hb (by simp)
    rw [List.append_assoc, List.append_assoc, List.singleton_append, readItems, hread]
    cases ht : t.holdsLong <;>
    simp [itemsHoldLong, ht, skipBlanks_append hb (r := ']' :: r) (by rintro c ⟨⟩; rfl)]
  | @IsItems.more o t b b' o' ts h hb hb' hs =>
    have hread := h.read fuel (b ++ ',' :: (b' ++ (o' ++ r))) (by simp at hf; omega)
      fun _ _ => stops_of_allBlank hb (by simp)
    have hblank' : skipBlanks (b' ++ (o' ++ r)) = o' ++ r := by
      obtain ⟨c, r', rfl, hc, -⟩ := hs.head
      exact skipBlanks_append hb' (by rintro c ⟨⟩; exact hc)
    have hrest := hs.read fuel r (by simp at hf; omega)
    rw [List.append_assoc, List.append_assoc, List.cons_append, List.append_assoc, readItems,
      hread]
    cases ht : t.holdsLong
    · cases hts : itemsHoldLong ts <;>
      simp [itemsHoldLong, ht, hts, hblank', hrest,
        skipBlanks_append hb (r := ',' :: (b' ++ (o' ++ r))) (by rintro c ⟨⟩; rfl)]
    · simp [itemsHoldLong, ht]

theorem IsMember.read {o : List Char} {m : List Char × Tree} (h : IsMember o m) (fuel : Nat)
    (r : List Char) (hf : o.length ≤ fuel) (hr : Stops r) :
    readMember fuel (o ++ r) = if m.2.holdsLong then none else some (m, r) := by
  obtain ⟨fuel, rfl⟩ : ∃ f, fuel = f + 1 := by
    cases h
    exact Nat.exists_eq_add_one_of_ne_zero (by simp at hf; omega)
  match h with
  | @IsMember.mk w key b b' o t hw hb hb' h =>
    have hread := h.read fuel r (by simp at hf; omega) fun _ _ => hr
    have hblank' : skipBlanks (b' ++ (o ++ r)) = o ++ r := by
      obtain ⟨c, r', rfl, hc, -⟩ := h.head
      exact skipBlanks_append hb' (by rintro c ⟨⟩; exact hc)
    simp only [List.cons_append, List.append_assoc]
    rw [readMember, hw.read]
    cases ht : t.holdsLong <;>
    simp [ht, hread, hblank',
      skipBlanks_append hb (r := ':' :: (b' ++ (o ++ r))) (by rintro c ⟨⟩; rfl)]

theorem IsMembers.read {o : List Char} {ms : List (List Char × Tree)} (h : IsMembers o ms)
    (fuel : Nat) (r : List Char) (hf : o.length ≤ fuel) :
    readMembers fuel (o ++ r) = if membersHoldLong ms then none else some (ms, r) := by
  obtain ⟨fuel, rfl⟩ : ∃ f, fuel = f + 1 := by
    obtain ⟨r', rfl⟩ := h.head
    exact Nat.exists_eq_add_one_of_ne_zero (by simp at hf; omega)
  match h with
  | @IsMembers.last o (key, t) b h hb =>
    have hread := h.read fuel (b ++ '\x7d' :: r) (by simp at hf; omega)
      (stops_of_allBlank hb (by simp))
    rw [List.append_assoc, List.append_assoc, List.singleton_append, readMembers, hread]
    cases ht : t.holdsLong <;>
    simp [membersHoldLong, ht, skipBlanks_append hb (r := '\x7d' :: r) (by rintro c ⟨⟩; rfl)]
  | @IsMembers.more o (key, t) b b' o' ms h hb hb' hs =>
    have hread := h.read fuel (b ++ ',' :: (b' ++ (o' ++ r))) (by simp at hf; omega)
      (stops_of_allBlank hb (by simp))
    have hblank' : skipBlanks (b' ++ (o' ++ r)) = o' ++ r := by
      obtain ⟨r', rfl⟩ := hs.head
      exact skipBlanks_append hb' (by rintro c ⟨⟩; rfl)
    have hrest := hs.read fuel r (by simp at hf; omega)
    rw [List.append_assoc, List.append_assoc, List.cons_append, List.append_assoc, readMembers,
      hread]
    cases ht : t.holdsLong
    · cases hms : membersHoldLong ms <;>
      simp [membersHoldLong, ht, hms, hblank', hrest,
        skipBlanks_append hb (r := ',' :: (b' ++ (o' ++ r))) (by rintro c ⟨⟩; rfl)]
    · simp [membersHoldLong, ht]

end

/-!
What is read is a value. The recursion is on the fuel.
-/

theorem isValue_of_readPlain {cs r : List Char} {t : Tree} (h : readPlain cs = some (t, r)) :
    ∃ o, cs = o ++ r ∧ IsValue o t ∧ t.holdsLong = false := by
  unfold readPlain at h
  split at h
  · next w t' hfind =>
    cases h
    have hmem := List.mem_of_find?_eq_some hfind
    have hstarts : startsWith w.toList cs = true := by simpa using List.find?_some hfind
    have hprefix := List.isPrefixOf_iff_prefix.1 hstarts
    refine ⟨w.toList, ?_, .word hmem, holdsLong_word hmem⟩
    rw [← String.length_toList]
    exact (List.prefix_iff_eq_append.1 hprefix).symm
  · obtain ⟨⟨n, r'⟩, hread, heq⟩ := Option.map_eq_some_iff.1 h
    cases heq
    obtain ⟨rfl, hn, hlong⟩ := isNumber_of_readNumber hread
    exact ⟨n, rfl, .number hn, hlong⟩

mutual

theorem isValue_of_readTree (fuel : Nat) {cs r : List Char} {t : Tree}
    (h : readTree fuel cs = some (t, r)) :
    ∃ o, cs = o ++ r ∧ IsValue o t ∧ t.holdsLong = false := by
  match fuel with
  | 0 => simp [readTree] at h
  | fuel + 1 =>
    unfold readTree at h
    split at h
    · next cs' =>
      obtain ⟨⟨s, r'⟩, hread, heq⟩ := Option.map_eq_some_iff.1 h
      cases heq
      obtain ⟨w, rfl, hw⟩ := isText_of_readText hread
      exact ⟨'"' :: (w ++ ['"']), by simp, .text hw, rfl⟩
    · next cs' =>
      obtain ⟨b, hb, hcs⟩ := exists_skipBlanks cs'
      split at h
      · next r' hskip =>
        cases h
        exact ⟨'[' :: (b ++ [']']), by rw [hcs, hskip]; simp, .emptyList hb, rfl⟩
      · obtain ⟨⟨ts, r'⟩, hread, heq⟩ := Option.map_eq_some_iff.1 h
        cases heq
        obtain ⟨o, ho, hts, hlong⟩ := isItems_of_readItems fuel hread
        exact ⟨'[' :: (b ++ o), by rw [hcs, ho]; simp, .list hb hts, hlong⟩
    · next cs' =>
      obtain ⟨b, hb, hcs⟩ := exists_skipBlanks cs'
      split at h
      · next r' hskip =>
        cases h
        exact ⟨'\x7b' :: (b ++ ['\x7d']), by rw [hcs, hskip]; simp, .emptyObject hb, rfl⟩
      · obtain ⟨⟨ms, r'⟩, hread, heq⟩ := Option.map_eq_some_iff.1 h
        cases heq
        obtain ⟨o, ho, hms, hlong⟩ := isMembers_of_readMembers fuel hread
        exact ⟨'\x7b' :: (b ++ o), by rw [hcs, ho]; simp, .object hb hms, hlong⟩
    · exact isValue_of_readPlain h

theorem isItems_of_readItems (fuel : Nat) {cs r : List Char} {ts : List Tree}
    (h : readItems fuel cs = some (ts, r)) :
    ∃ o, cs = o ++ r ∧ IsItems o ts ∧ itemsHoldLong ts = false := by
  match fuel with
  | 0 => simp [readItems] at h
  | fuel + 1 =>
    unfold readItems at h
    obtain ⟨⟨t, r₁⟩, hread, htail⟩ := Option.bind_eq_some_iff.1 h
    dsimp only at htail
    obtain ⟨o, rfl, ht, hlong⟩ := isValue_of_readTree fuel hread
    obtain ⟨b, hb, hr⟩ := exists_skipBlanks r₁
    split at htail
    · next r₂ hskip =>
      obtain ⟨⟨ts', r₃⟩, hread', heq⟩ := Option.map_eq_some_iff.1 htail
      cases heq
      obtain ⟨b', hb', hr'⟩ := exists_skipBlanks r₂
      obtain ⟨o', ho', hts, hlong'⟩ := isItems_of_readItems fuel hread'
      refine ⟨o ++ (b ++ ',' :: (b' ++ o')), ?_, .more ht hb hb' hts, ?_⟩
      · rw [hr, hskip, hr', ho']
        simp
      · simp [itemsHoldLong, hlong, hlong']
    · next r₂ hskip =>
      cases htail
      refine ⟨o ++ (b ++ [']']), ?_, .last ht hb, ?_⟩
      · rw [hr, hskip]
        simp
      · simp [itemsHoldLong, hlong]
    · cases htail

theorem isMember_of_readMember (fuel : Nat) {cs r : List Char} {m : List Char × Tree}
    (h : readMember fuel cs = some (m, r)) :
    ∃ o, cs = o ++ r ∧ IsMember o m ∧ m.2.holdsLong = false := by
  match fuel with
  | 0 => simp [readMember] at h
  | fuel + 1 =>
    unfold readMember at h
    split at h
    · next cs' =>
      obtain ⟨⟨key, r₁⟩, hread, htail⟩ := Option.bind_eq_some_iff.1 h
      dsimp only at htail
      obtain ⟨w, rfl, hw⟩ := isText_of_readText hread
      obtain ⟨b, hb, hr⟩ := exists_skipBlanks r₁
      split at htail
      · next r₂ hskip =>
        obtain ⟨⟨t, r₃⟩, hread', heq⟩ := Option.map_eq_some_iff.1 htail
        cases heq
        obtain ⟨b', hb', hr'⟩ := exists_skipBlanks r₂
        obtain ⟨o, ho, ht, hlong⟩ := isValue_of_readTree fuel hread'
        refine ⟨'"' :: (w ++ '"' :: (b ++ ':' :: (b' ++ o))), ?_, .mk hw hb hb' ht, hlong⟩
        rw [hr, hskip, hr', ho]
        simp
      · cases htail
    · cases h

theorem isMembers_of_readMembers (fuel : Nat) {cs r : List Char} {ms : List (List Char × Tree)}
    (h : readMembers fuel cs = some (ms, r)) :
    ∃ o, cs = o ++ r ∧ IsMembers o ms ∧ membersHoldLong ms = false := by
  match fuel with
  | 0 => simp [readMembers] at h
  | fuel + 1 =>
    unfold readMembers at h
    obtain ⟨⟨m, r₁⟩, hread, htail⟩ := Option.bind_eq_some_iff.1 h
    dsimp only at htail
    obtain ⟨o, rfl, hm, hlong⟩ := isMember_of_readMember fuel hread
    obtain ⟨b, hb, hr⟩ := exists_skipBlanks r₁
    split at htail
    · next r₂ hskip =>
      obtain ⟨⟨ms', r₃⟩, hread', heq⟩ := Option.map_eq_some_iff.1 htail
      cases heq
      obtain ⟨b', hb', hr'⟩ := exists_skipBlanks r₂
      obtain ⟨o', ho', hms, hlong'⟩ := isMembers_of_readMembers fuel hread'
      refine ⟨o ++ (b ++ ',' :: (b' ++ o')), ?_, .more hm hb hb' hms, ?_⟩
      · rw [hr, hskip, hr', ho']
        simp
      · simp [membersHoldLong, hlong, hlong']
    · next r₂ hskip =>
      cases htail
      refine ⟨o ++ (b ++ ['\x7d']), ?_, .last hm hb, ?_⟩
      · rw [hr, hskip]
        simp
      · simp [membersHoldLong, hlong]
    · cases htail

end

/-!
The first value of a text.
-/

theorem read?_object {o : List Char} {ms : List (List Char × Tree)} (h : IsValue o (.object ms))
    (r : List Char) :
    read? (o ++ r) = if (Tree.object ms).holdsLong then none else some (.object ms, r) :=
  h.read _ r (by simp; omega) fun _ heq => Tree.noConfusion heq

/-- The first character of a value tells whether it is an object. -/
theorem IsValue.head?_eq_brace_iff {o : List Char} {t : Tree} (h : IsValue o t) :
    o.head? = some '\x7b' ↔ ∃ ms, t = .object ms := by
  cases h with
  | @word w t h =>
    obtain ⟨c, r, hw, -, -, -, -, ho⟩ := head_word h
    have hobject : ∀ ms, t ≠ .object ms := by
      simp only [words, List.mem_cons, List.not_mem_nil, or_false, Prod.mk.injEq] at h
      rcases h with ⟨rfl, rfl⟩ | ⟨rfl, rfl⟩ | ⟨rfl, rfl⟩ | ⟨rfl, rfl⟩ | ⟨rfl, rfl⟩ | ⟨rfl, rfl⟩ <;>
      exact fun _ heq => Tree.noConfusion heq
    simp [hw, ho, hobject]
  | number h =>
    obtain ⟨c, r, rfl, -, -, -, -, ho⟩ := head_number h
    simp [ho]
  | text _ | emptyList _ | list _ _ | emptyObject _ | object _ _ => simp

/-- An object at the head of a text is the only value there. -/
theorem IsValue.eq_object {o o' r r' : List Char} {t : Tree} {ms : List (List Char × Tree)}
    (h : IsValue o t) (h' : IsValue o' (.object ms)) (hlong : (Tree.object ms).holdsLong = false)
    (heq : o ++ r = o' ++ r') : t = .object ms := by
  have hhead : o.head? = o'.head? := by
    obtain ⟨c, o₁, rfl, -⟩ := h.head
    obtain ⟨c', o₂, rfl, -⟩ := h'.head
    simpa using congrArg List.head? heq
  obtain ⟨ms', rfl⟩ := h.head?_eq_brace_iff.1 (hhead.trans (h'.head?_eq_brace_iff.2 ⟨ms, rfl⟩))
  have hread := read?_object h r
  rw [heq, read?_object h' r', hlong, if_neg Bool.false_ne_true] at hread
  split at hread
  · cases hread
  · cases hread
    rfl

/-!
The members of an object.
-/

/-- The member of a name that stands behind all others of that name. -/
def IsLastMember (ms : List (List Char × Tree)) (name : String) (t : Tree) : Prop :=
  ∃ before after, ms = before ++ (name.toList, t) :: after ∧ ∀ m ∈ after, m.1 ≠ name.toList

theorem member?_eq_some_iff {ms : List (List Char × Tree)} {name : String} {t : Tree} :
    (Tree.object ms).member? name = some t ↔ IsLastMember ms name t := by
  constructor
  · intro h
    obtain ⟨⟨key, t'⟩, hfind, rfl⟩ := Option.map_eq_some_iff.1 h
    obtain ⟨hname, after, before, hms, hafter⟩ := List.find?_eq_some_iff_append.1 hfind
    obtain rfl : key = name.toList := by simpa using hname
    refine ⟨before.reverse, after.reverse, ?_, fun m hm => ?_⟩
    · rw [← List.reverse_reverse ms, hms]
      simp
    · simpa using hafter m (List.mem_reverse.1 hm)
  · rintro ⟨before, after, rfl, hafter⟩
    have hnone : after.reverse.find? (fun m => m.1 == name.toList) = none := by
      simpa using hafter
    simp [Tree.member?, hnone]

/-- Of the members of one name only one is the last. -/
theorem IsLastMember.unique {ms : List (List Char × Tree)} {name : String} {t t' : Tree}
    (h : IsLastMember ms name t) (h' : IsLastMember ms name t') : t = t' :=
  Option.some.inj ((member?_eq_some_iff.mpr h).symm.trans (member?_eq_some_iff.mpr h'))

theorem member?_eq_none_iff {ms : List (List Char × Tree)} {name : String} :
    (Tree.object ms).member? name = none ↔ ∀ m ∈ ms, m.1 ≠ name.toList := by
  simp [Tree.member?]

end AlertRelay.Json
