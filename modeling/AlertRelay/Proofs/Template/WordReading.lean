import AlertRelay.Proofs.Template.Scanning

/-!
The names and numbers that the readers take from a source: each stands at the head of the text that
they are given, and none of the readers looks past a closing brace. A number ends in a digit or a
point, never in a minus sign.
-/

namespace AlertRelay.Template

open AlertRelay.Number AlertRelay.Text

theorem isBlank_iff {c : Char} : isBlank c = true ↔ c ∈ [' ', '\t', '\r', '\n'] := by
  simp [isBlank, or_assoc]

theorem not_of_isBlank {p : Char → Bool} (hp : [' ', '\t', '\r', '\n'].all (!p ·) = true)
    {c : Char} (h : isBlank c = true) : p c = false := by
  simpa using List.all_eq_true.mp hp c (isBlank_iff.mp h)

/-- The character that closing delimiters are made of. -/
def closeBrace : Char := '\x7d'

theorem isDigit_closeBrace : isDigit closeBrace = false := by decide

theorem isWord_closeBrace : isWord closeBrace = false := by decide

theorem isWord_minus : isWord '-' = false := by decide

theorem isDigit_minus : isDigit '-' = false := by decide

/-- A letter or an underscore, and letters, digits and underscores after it. -/
def IsName (name : List Char) : Prop :=
  ∃ c cs, name = c :: cs ∧ isNameStart c = true ∧ ∀ a ∈ cs, isWord a = true

/-- A chain of names as it is written. -/
def chainChars (names : List (List Char)) : List Char := names.flatMap ('.' :: ·)

theorem nameAt_eq_cons {cs w : List Char} {c : Char} (h : nameAt cs = c :: w) :
    IsName (c :: w) ∧ ∃ r, cs = c :: w ++ r := by
  unfold nameAt at h
  split at h
  · cases h
  · next a r =>
    split at h
    · next ha =>
      cases h
      refine ⟨⟨_, _, rfl, ha, fun b hb => all_of_mem_takeWhile hb⟩, r.dropWhile isWord, ?_⟩
      rw [List.cons_append, List.takeWhile_append_dropWhile]
    · cases h

theorem nameAt_append {cs ds : List Char} (h : closeBrace ∈ cs) :
    nameAt (cs ++ ds) = nameAt cs := by
  match cs with
  | c :: r =>
    rw [List.cons_append, nameAt, nameAt]
    rcases List.mem_cons.mp h with rfl | hr
    · rfl
    · rw [takeWhile_append_of_mem hr isWord_closeBrace]

theorem nameAt_of_isName {name r : List Char} {c : Char} (h : IsName name)
    (hc : isWord c = false) : nameAt (name ++ c :: r) = name := by
  obtain ⟨a, w, rfl, ha, hw⟩ := h
  rw [List.cons_append, nameAt, if_pos ha, takeWhile_append_cons hw hc]

theorem chainAt_spec {cs : List Char} {names : List (List Char)} {n : Nat}
    (h : chainAt cs = (names, n)) :
    n = (chainChars names).length ∧ (∀ name ∈ names, IsName name) ∧
      ∃ r, cs = chainChars names ++ r := by
  fun_induction chainAt cs generalizing names n with
  | case1 r hr =>
    cases h
    exact ⟨rfl, by simp, _, rfl⟩
  | case2 r c w hr names' n' hrest ih =>
    cases h
    obtain ⟨hn, hall, r', hr'⟩ := ih hrest
    obtain ⟨hname, r'', rfl⟩ := nameAt_eq_cons hr
    refine ⟨?_, ?_, r', ?_⟩
    · simp only [chainChars, List.flatMap_cons, List.length_append, List.length_cons] at hn ⊢
      omega
    · rintro name (_ | ⟨_, hm⟩)
      · exact hname
      · exact hall name hm
    · rw [List.drop_left] at hr'
      rw [hr']
      simp [chainChars]
  | case3 cs hcs =>
    cases h
    exact ⟨rfl, by simp, cs, rfl⟩

theorem mem_of_mem_append_not {c : Char} {cs ds : List Char} (h : c ∈ cs ++ ds)
    (hc : c ∉ cs) : c ∈ ds := (List.mem_append.mp h).resolve_left hc

theorem IsName.closeBrace_not_mem {name : List Char} (h : IsName name) : closeBrace ∉ name := by
  obtain ⟨a, w, rfl, ha, hw⟩ := h
  rintro (_ | ⟨_, hm⟩)
  · exact absurd ha (by decide)
  · have := hw _ hm
    rw [isWord_closeBrace] at this
    cases this

theorem chainAt_append {cs ds : List Char} (h : closeBrace ∈ cs) :
    chainAt (cs ++ ds) = chainAt cs := by
  fun_induction chainAt cs with
  | case1 r hr =>
    have hmem : closeBrace ∈ r := (List.mem_cons.mp h).resolve_left (by decide)
    rw [List.cons_append, chainAt, nameAt_append hmem, hr]
  | case2 r c w hr names n hrest ih =>
    have hmem : closeBrace ∈ r := (List.mem_cons.mp h).resolve_left (by decide)
    obtain ⟨hname, r', rfl⟩ := nameAt_eq_cons hr
    rw [List.drop_left] at hrest ih
    have hmem' : closeBrace ∈ r' := mem_of_mem_append_not hmem hname.closeBrace_not_mem
    rw [List.cons_append, chainAt, nameAt_append hmem, hr]
    dsimp only
    rw [List.append_assoc, List.drop_left, ih hmem', hrest]
  | case3 cs hcs =>
    match cs, hcs with
    | c :: r, hcs =>
      rw [List.cons_append, chainAt]
      rintro r' he
      exact hcs r (by rw [(List.cons.inj he).1])

/-- What a number ends with: a digit, or the point. -/
def EndsNumber (cs : List Char) : Prop := ∃ a ∈ cs.getLast?, isDigit a = true ∨ a = '.'

theorem EndsNumber.append {ds : List Char} (h : EndsNumber ds) (cs : List Char) :
    EndsNumber (cs ++ ds) := by
  obtain ⟨a, ha, hd⟩ := h
  exact ⟨a, by rw [List.getLast?_append, ha]; rfl, hd⟩

theorem endsNumber_digits {ds : List Char} (hne : ds ≠ []) (h : ∀ a ∈ ds, isDigit a = true) :
    EndsNumber ds :=
  ⟨ds.getLast hne, List.getLast?_eq_some_getLast hne, .inl (h _ (List.getLast_mem hne))⟩

theorem takeSign_spec (cs : List Char) : cs = (takeSign cs).1 ++ (takeSign cs).2 := by
  unfold takeSign
  split
  · split <;> rfl
  · rfl

theorem takeSign_append {cs : List Char} (h : closeBrace ∈ cs) (ds : List Char) :
    takeSign (cs ++ ds) = ((takeSign cs).1, (takeSign cs).2 ++ ds) ∧
      closeBrace ∈ (takeSign cs).2 := by
  match cs with
  | c :: r =>
    rw [List.cons_append, takeSign, takeSign]
    split
    · next hc =>
      refine ⟨rfl, (List.mem_cons.mp h).resolve_left ?_⟩
      rintro rfl
      exact absurd hc (by decide)
    · exact ⟨rfl, h⟩

theorem exponentAt_append {cs ds : List Char} (h : closeBrace ∈ cs) :
    exponentAt (cs ++ ds) = exponentAt cs := by
  match cs with
  | c :: r =>
    rw [List.cons_append, exponentAt, exponentAt]
    split
    · next hc =>
      have hr : closeBrace ∈ r := by
        refine (List.mem_cons.mp h).resolve_left ?_
        rintro rfl
        exact absurd hc (by decide)
      obtain ⟨hs, hmem⟩ := takeSign_append hr ds
      rw [hs]
      dsimp only
      rw [takeWhile_append_of_mem hmem isDigit_closeBrace]
    · rfl

theorem exponentAt_eq_some {cs sign es : List Char} (h : exponentAt cs = some (sign, es)) :
    EndsNumber es ∧ ∃ mark r, cs = mark :: (sign ++ es) ++ r := by
  match cs with
  | c :: r =>
    rw [exponentAt] at h
    split at h
    · dsimp only at h
      split at h
      · cases h
      · next hne =>
        cases h
        refine ⟨endsNumber_digits hne fun a ha => all_of_mem_takeWhile ha, c,
          (takeSign r).2.dropWhile isDigit, ?_⟩
        rw [List.cons_append, List.append_assoc, List.takeWhile_append_dropWhile, ← takeSign_spec]
    · cases h

/-- How many characters an exponent takes. -/
def exponentLength : Option (List Char × List Char) → Nat
  | some (sign, es) => sign.length + es.length + 1
  | none => 0

theorem length_of_point (sign whole ds : List Char) (e : Option (List Char × List Char)) :
    Numeral.length ⟨sign, whole, some ds, e⟩ =
      sign.length + whole.length + (ds.length + 1) + exponentLength e := rfl

theorem length_of_no_point (sign whole : List Char) (e : Option (List Char × List Char)) :
    Numeral.length ⟨sign, whole, none, e⟩ = sign.length + whole.length + exponentLength e := rfl

/-- The text of an exponent, empty if there is none. -/
theorem exponentAt_split (cs : List Char) : ∃ e r, cs = e ++ r ∧ (e ≠ [] → EndsNumber e) ∧
    e.length = exponentLength (exponentAt cs) := by
  cases h : exponentAt cs with
  | none => exact ⟨[], cs, rfl, fun hne => absurd rfl hne, rfl⟩
  | some x =>
    obtain ⟨hends, mark, r, hcs⟩ := exponentAt_eq_some h
    refine ⟨mark :: (x.1 ++ x.2), r, hcs, fun _ => hends.append (mark :: x.1), ?_⟩
    simp [exponentLength]

theorem numeralAt_of_point {cs r : List Char}
    (h : (takeSign cs).2.dropWhile isDigit = '.' :: r) : numeralAt cs =
      if ((takeSign cs).2.takeWhile isDigit).isEmpty && (r.takeWhile isDigit).isEmpty then none
      else some ⟨(takeSign cs).1, (takeSign cs).2.takeWhile isDigit, some (r.takeWhile isDigit),
        exponentAt (r.dropWhile isDigit)⟩ := by
  unfold numeralAt
  simp only [h]

theorem numeralAt_of_no_point {cs : List Char}
    (h : ∀ r, (takeSign cs).2.dropWhile isDigit ≠ '.' :: r) : numeralAt cs =
      if ((takeSign cs).2.takeWhile isDigit).isEmpty then none
      else some ⟨(takeSign cs).1, (takeSign cs).2.takeWhile isDigit, none,
        exponentAt ((takeSign cs).2.dropWhile isDigit)⟩ := by
  unfold numeralAt
  dsimp only
  split
  · next r hr => exact absurd hr (h r)
  · rfl

theorem numeralAt_append {cs ds : List Char} (h : closeBrace ∈ cs) :
    numeralAt (cs ++ ds) = numeralAt cs := by
  obtain ⟨hs, hmem⟩ := takeSign_append h ds
  have hwhole : ((takeSign cs).2 ++ ds).takeWhile isDigit = (takeSign cs).2.takeWhile isDigit :=
    takeWhile_append_of_mem hmem isDigit_closeBrace
  have hdrop : ((takeSign cs).2 ++ ds).dropWhile isDigit =
      (takeSign cs).2.dropWhile isDigit ++ ds :=
    dropWhile_append_of_mem hmem isDigit_closeBrace
  have hrest := mem_dropWhile hmem isDigit_closeBrace
  by_cases hp : ∃ r, (takeSign cs).2.dropWhile isDigit = '.' :: r
  · obtain ⟨r, hr⟩ := hp
    have hmem' : closeBrace ∈ r := by
      rw [hr] at hrest
      exact (List.mem_cons.mp hrest).resolve_left (by decide)
    have hr' : (takeSign (cs ++ ds)).2.dropWhile isDigit = '.' :: (r ++ ds) := by
      rw [hs, hdrop, hr, List.cons_append]
    rw [numeralAt_of_point hr', numeralAt_of_point hr, hs, hwhole,
      takeWhile_append_of_mem hmem' isDigit_closeBrace,
      dropWhile_append_of_mem hmem' isDigit_closeBrace,
      exponentAt_append (mem_dropWhile hmem' isDigit_closeBrace)]
  · rw [not_exists] at hp
    have hp' : ∀ r, (takeSign (cs ++ ds)).2.dropWhile isDigit ≠ '.' :: r := by
      intro r hr
      rw [hs, hdrop] at hr
      match hc : (takeSign cs).2.dropWhile isDigit, hrest with
      | c :: r', _ =>
        rw [hc, List.cons_append] at hr
        exact hp r' (by rw [hc, (List.cons.inj hr).1])
    rw [numeralAt_of_no_point hp', numeralAt_of_no_point hp, hs, hwhole, hdrop,
      exponentAt_append hrest]

/-- A number stands at the head of the text, its digits before the point right after its sign. -/
theorem numeralAt_eq_some {cs : List Char} {n : Numeral} (h : numeralAt cs = some n) :
    (∀ a ∈ n.whole, isDigit a = true) ∧ ∃ f r, cs = n.sign ++ (n.whole ++ f) ++ r ∧
      EndsNumber (n.whole ++ f) ∧ n.length = (n.sign ++ (n.whole ++ f)).length := by
  have hcs := takeSign_spec cs
  have hrest := List.takeWhile_append_dropWhile (p := isDigit) (l := (takeSign cs).2)
  have hdigits : ∀ a ∈ (takeSign cs).2.takeWhile isDigit, isDigit a = true :=
    fun a ha => all_of_mem_takeWhile ha
  by_cases hp : ∃ r, (takeSign cs).2.dropWhile isDigit = '.' :: r
  · obtain ⟨r, hr⟩ := hp
    rw [numeralAt_of_point hr] at h
    split at h
    · cases h
    · cases h
      obtain ⟨e, r', he, hends, hlen⟩ := exponentAt_split (r.dropWhile isDigit)
      have hfraction := List.takeWhile_append_dropWhile (p := isDigit) (l := r)
      refine ⟨hdigits, '.' :: (r.takeWhile isDigit ++ e), r', ?_, ?_, ?_⟩
      · calc cs = (takeSign cs).1 ++ ((takeSign cs).2.takeWhile isDigit ++
                '.' :: (r.takeWhile isDigit ++ r.dropWhile isDigit)) := by
              rw [hfraction, ← hr, hrest, ← hcs]
          _ = _ := by
              rw [he]
              simp
      · by_cases hne : e = []
        · by_cases hf : r.takeWhile isDigit = []
          · rw [hf, hne]
            exact EndsNumber.append ⟨'.', rfl, .inr rfl⟩ _
          · have := endsNumber_digits hf fun a ha => all_of_mem_takeWhile ha
            rw [hne, List.append_nil]
            exact (this.append ['.']).append _
        · exact ((hends hne).append ('.' :: r.takeWhile isDigit)).append _
      · simp only [length_of_point, List.length_append, List.length_cons, hlen]
        omega
  · rw [not_exists] at hp
    rw [numeralAt_of_no_point hp] at h
    split at h
    · cases h
    · next hne =>
      cases h
      obtain ⟨e, r', he, hends, hlen⟩ := exponentAt_split ((takeSign cs).2.dropWhile isDigit)
      refine ⟨hdigits, e, r', ?_, ?_, ?_⟩
      · rw [List.append_assoc, List.append_assoc, ← he, hrest, ← hcs]
      · by_cases hnil : e = []
        · rw [hnil, List.append_nil]
          exact endsNumber_digits (by simpa using hne) hdigits
        · exact (hends hnil).append _
      · simp only [length_of_no_point, List.length_append, hlen]
        omega

end AlertRelay.Template
