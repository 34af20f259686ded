import AlertRelay.Command.Arguments
import AlertRelay.Proofs.Template.Scanning
import Mathlib.Data.List.TakeWhile

/-!
How a single argument is taken: for an option, alone or with a text of its own, or for a plain text.
-/

namespace AlertRelay.Command

open AlertRelay.Text AlertRelay.Template

/-- A name that stands for one option: one of its own, or two dashes and more that only one of all
names begins with. -/
inductive Calls (name : String) (o : Opt) : Prop where
  | whole (own : optNames.lookup name = some o)
  | beginning {full} (other : optNames.lookup name = none)
      (dashes : startsWith ['-', '-'] name.toList = true)
      (only : optNames.filter (fun n => startsWith name.toList n.1.toList) = [(full, o)])

theorem mem_of_lookup {name : String} {o : Opt} (h : optNames.lookup name = some o) :
    (name, o) ∈ optNames := by
  obtain ⟨before, after, hn, -⟩ := List.lookup_eq_some_iff.mp h
  rw [hn]
  exact List.mem_append_right _ List.mem_cons_self

theorem Calls.no_sign {name : String} {o : Opt} (h : Calls name o) : '=' ∉ name.toList := by
  have hnames : ∀ n ∈ optNames, '=' ∉ n.1.toList := by decide
  cases h with
  | whole own => exact hnames _ (mem_of_lookup own)
  | @beginning full other dashes only =>
    have hfull : (full, o) ∈ optNames.filter fun n => startsWith name.toList n.1.toList := by
      rw [only]
      exact List.mem_singleton_self _
    obtain ⟨hmem, hstarts⟩ := List.mem_filter.mp hfull
    obtain ⟨r, hr⟩ := startsWith_iff.mp hstarts
    intro hsign
    exact hnames _ hmem (hr ▸ List.mem_append_left r hsign)

theorem Calls.dash {name : String} {o : Opt} (h : Calls name o) :
    name.toList.head? = some '-' ∧ 2 ≤ name.toList.length := by
  have hnames : ∀ n ∈ optNames, n.1.toList.head? = some '-' ∧ 2 ≤ n.1.toList.length := by decide
  cases h with
  | whole own => exact hnames _ (mem_of_lookup own)
  | beginning other dashes only =>
    obtain ⟨r, hr⟩ := startsWith_iff.mp dashes
    rw [hr]
    exact ⟨rfl, Nat.le_add_left ..⟩

theorem ne_sign {cs : List Char} (h : '=' ∉ cs) : ∀ c ∈ cs, (c != '=') = true := by
  intro c hc
  rw [bne_iff_ne]
  rintro rfl
  exact h hc

theorem splitValue_of_not_mem {cs : List Char} (h : '=' ∉ cs) : splitValue cs = (cs, none) := by
  unfold splitValue
  rw [List.dropWhile_eq_nil_iff.mpr (ne_sign h)]

theorem splitValue_append {name : List Char} (h : '=' ∉ name) (value : List Char) :
    splitValue (name ++ '=' :: value) = (name, some value) := by
  unfold splitValue
  rw [dropWhile_append_cons (ne_sign h) rfl, takeWhile_append_cons (ne_sign h) rfl]

/-- A text has an equals sign in it or not. -/
theorem sign_cases (arg : String) : '=' ∉ arg.toList ∨
    ∃ name value : String, arg = name ++ "=" ++ value ∧ '=' ∉ name.toList := by
  by_cases h : '=' ∈ arg.toList
  · obtain ⟨name, value, hs, hn⟩ := List.eq_append_cons_of_mem h
    refine .inr ⟨String.ofList name, String.ofList value, ?_, by rwa [String.toList_ofList]⟩
    rw [← String.toList_inj]
    simp [hs]
  · exact .inl h

theorem lookup_of_sign {arg : String} (h : '=' ∈ arg.toList) : optNames.lookup arg = none := by
  cases hl : optNames.lookup arg with
  | none => rfl
  | some o => exact absurd h (Calls.whole hl).no_sign

theorem toList_joined (name s : String) :
    (name ++ "=" ++ s).toList = name.toList ++ '=' :: s.toList := by
  simp

/-- The word for an argument, by what stands before an equals sign in it and what comes after. -/
theorem wordOf_eq {arg : String} (name : String) (value : Option String)
    (hs : splitValue arg.toList = (name.toList, value.map String.toList))
    (hd : arg.toList.head? = some '-') (hl : 2 ≤ arg.toList.length)
    (ho : optNames.lookup arg = none) :
    wordOf arg =
      match optNames.lookup name, startsWith ['-', '-'] arg.toList with
      | some o, true => .ok (.option o value)
      | some _, false => .ok (.row ((value.map String.toList).getD []))
      | none, true =>
        match optNames.filter fun n => startsWith name.toList n.1.toList with
        | [] => .ok (wordOf.other arg)
        | [(_, o)] => .ok (.option o value)
        | ns => .error (.ambiguous arg (ns.map Prod.fst))
      | none, false =>
        if startsWith ['-', 'h'] arg.toList then .ok (.row (arg.toList.drop 2))
        else .ok (wordOf.other arg) := by
  have hlength : ¬ (arg.toList.length == 1) = true := by
    rw [beq_iff_eq]
    omega
  have hvalue : (value.map String.toList).map String.ofList = value := by
    cases value <;> simp
  unfold wordOf
  dsimp only
  rw [hs, hd, ho, if_neg (by decide)]
  dsimp only
  rewrite [if_neg hlength, String.ofList_toList, hvalue]
  rfl

/-- An option that stands alone, without a text of its own. -/
theorem wordOf_of_calls {arg : String} {o : Opt} (h : Calls arg o) :
    wordOf arg = .ok (.option o none) := by
  obtain ⟨hhead, hlength⟩ := h.dash
  cases h with
  | whole own =>
    unfold wordOf
    dsimp only
    rw [hhead, own]
    rfl
  | beginning other dashes only =>
    have hsplit := splitValue_of_not_mem (Calls.beginning other dashes only).no_sign
    rw [wordOf_eq arg none hsplit hhead hlength other, other, dashes]
    dsimp only
    rw [only]

/-- An option with a text behind an equals sign. -/
theorem wordOf_joined {name : String} {o : Opt} (h : Calls name o)
    (hd : startsWith ['-', '-'] name.toList = true) (s : String) :
    wordOf (name ++ "=" ++ s) = .ok (.option o (some s)) := by
  have hsplit := splitValue_append h.no_sign s.toList
  obtain ⟨r, hr⟩ := startsWith_iff.mp hd
  have hlist : (name ++ "=" ++ s).toList = '-' :: '-' :: (r ++ '=' :: s.toList) := by
    rw [toList_joined, hr]
    rfl
  have hother : optNames.lookup (name ++ "=" ++ s) = none :=
    lookup_of_sign (by rw [toList_joined]; exact List.mem_append_right _ List.mem_cons_self)
  have hdashes : startsWith ['-', '-'] (name ++ "=" ++ s).toList = true :=
    startsWith_iff.mpr ⟨_, hlist⟩
  rw [wordOf_eq name (some s) (by rw [toList_joined, hsplit]; rfl) (by rw [hlist]; rfl)
    (by rw [hlist]; exact Nat.le_add_left ..) hother, hdashes]
  cases h with
  | whole own => rw [own]
  | beginning other dashes only =>
    rw [other]
    dsimp only
    rw [only]

theorem other_ne_option {arg : String} {o : Opt} {v : Option String} :
    wordOf.other arg ≠ .option o v := by
  unfold wordOf.other
  split <;> nofun

/-- What is taken for an option begins with a dash and does not end there. -/
theorem dash_of_wordOf {arg : String} {o : Opt} {v : Option String}
    (h : wordOf arg = .ok (.option o v)) (ho : optNames.lookup arg = none) :
    arg.toList.head? = some '-' ∧ 2 ≤ arg.toList.length := by
  unfold wordOf at h
  dsimp only at h
  split at h
  · cases h
  · next hd =>
    rw [ho] at h
    dsimp only at h
    split at h
    · cases h
    · next hl =>
      have hhead : arg.toList.head? = some '-' := by simpa using hd
      have hne : arg.toList ≠ [] := by
        rintro hnil
        rw [hnil] at hhead
        cases hhead
      have hpos := List.length_pos_iff.mpr hne
      rw [beq_iff_eq] at hl
      exact ⟨hhead, by omega⟩

/-- The option that is named before an equals sign, or in the whole argument. -/
theorem named_of_wordOf {arg name : String} {o : Opt} {v : Option String} (value : Option String)
    (hs : splitValue arg.toList = (name.toList, value.map String.toList))
    (h : wordOf arg = .ok (.option o v)) (ho : optNames.lookup arg = none) :
    v = value ∧ startsWith ['-', '-'] arg.toList = true ∧
      (startsWith ['-', '-'] name.toList = true → Calls name o) := by
  obtain ⟨hhead, hlength⟩ := dash_of_wordOf h ho
  rw [wordOf_eq name value hs hhead hlength ho] at h
  split at h
  · next hown hd =>
    cases h
    exact ⟨rfl, hd, fun _ => .whole hown⟩
  · cases h
  · next hnone hd =>
    split at h
    · exact absurd (Except.ok.inj h) other_ne_option
    · next honly =>
      cases h
      exact ⟨rfl, hd, fun hn => .beginning hnone hn honly⟩
    · cases h
  · split at h
    · cases h
    · exact absurd (Except.ok.inj h) other_ne_option

theorem dashes_of_append {name value : List Char} (hn : '=' ∉ name)
    (h : startsWith ['-', '-'] (name ++ '=' :: value) = true) :
    startsWith ['-', '-'] name = true := by
  obtain ⟨r, hr⟩ := startsWith_iff.mp h
  match name with
  | [] => cases hr
  | [_] => cases hr
  | a :: b :: rest =>
    rw [List.cons_append, List.cons_append] at hr
    cases hr
    exact startsWith_iff.mpr ⟨rest, rfl⟩

/-- What is taken for an option is a name that stands for one, and may have a text behind it. -/
theorem of_wordOf {arg : String} {o : Opt} {v : Option String}
    (h : wordOf arg = .ok (.option o v)) :
    Calls arg o ∧ v = none ∨ ∃ name s, arg = name ++ "=" ++ s ∧ Calls name o ∧
      startsWith ['-', '-'] name.toList = true ∧ v = some s := by
  cases ho : optNames.lookup arg with
  | some own =>
    rw [wordOf_of_calls (.whole ho)] at h
    cases h
    exact .inl ⟨.whole ho, rfl⟩
  | none =>
    obtain hsign | ⟨name, s, rfl, hn⟩ := sign_cases arg
    · obtain ⟨rfl, hd, hcalls⟩ := named_of_wordOf none (splitValue_of_not_mem hsign) h ho
      exact .inl ⟨hcalls hd, rfl⟩
    · have hs : splitValue (name ++ "=" ++ s).toList = (name.toList, some s.toList) := by
        rw [toList_joined, splitValue_append hn]
      obtain ⟨rfl, hd, hcalls⟩ := named_of_wordOf (some s) hs h ho
      rw [toList_joined] at hd
      have hdashes := dashes_of_append hn hd
      exact .inr ⟨name, s, rfl, hcalls hdashes, hdashes, rfl⟩

/-- Two dashes on their own are the beginning of every long name. -/
theorem ne_dashes_of_wordOf {arg : String} {w : Word} (h : wordOf arg = .ok w) : arg ≠ "--" := by
  have hdashes : wordOf "--" = .error (.ambiguous "--" ((optNames.drop 1).map Prod.fst)) := rfl
  rintro rfl
  rw [hdashes] at h
  cases h

theorem other_plain {arg s : String} (h : wordOf.other arg = .plain s) : s = arg := by
  unfold wordOf.other at h
  split at h
  · cases h
    rfl
  · cases h

/-- A text that is no option is kept as it is. -/
theorem eq_of_wordOf_plain {arg s : String} (h : wordOf arg = .ok (.plain s)) : s = arg := by
  unfold wordOf at h
  dsimp only at h
  split at h
  · cases h
    rfl
  split at h
  · cases h
  split at h
  · cases h
    rfl
  split at h
  · cases h
  · cases h
  · split at h
    · exact other_plain (Except.ok.inj h)
    · cases h
    · cases h
  · split at h
    · cases h
    · exact other_plain (Except.ok.inj h)

end AlertRelay.Command
