import AlertRelay.Proofs.Template.ItemReading

/-!
What stands between two delimiters, read step by step: blanks and items up to the closing delimiter,
or a comment. The relations below say all that the readers accept, and the readers accept no more.
-/

namespace AlertRelay.Template

open AlertRelay.Number AlertRelay.Text

/-- The closing delimiter, with the minus sign that asks for the blanks after it to be dropped. -/
def closer (trim : Bool) : List Char := if trim then '-' :: rightDelim else rightDelim

/-- Blanks before a closing delimiter: a minus sign counts as part of it only after a blank. -/
structure LeadsTo (trim : Bool) (blanks : List Char) : Prop where
  blank : ∀ a ∈ blanks, isBlank a = true
  ne_nil : trim = true → blanks ≠ []

theorem closeAt_eq_some_iff {b trim : Bool} {cs : List Char} {k : Nat} :
    closeAt b cs = some (k, trim) ↔
      k = (closer trim).length ∧ (trim = true → b = true) ∧ ∃ r, cs = closer trim ++ r := by
  unfold closeAt
  constructor
  · intro h
    split at h
    · next hs =>
      cases h
      exact ⟨rfl, nofun, startsWith_iff.mp hs⟩
    · split at h
      · next hs =>
        cases h
        rw [Bool.and_eq_true] at hs
        exact ⟨rfl, fun _ => hs.1, startsWith_iff.mp hs.2⟩
      · cases h
  · rintro ⟨rfl, hb, r, rfl⟩
    cases trim with
    | false =>
      have hs : startsWith rightDelim (closer false ++ r) = true := startsWith_iff.mpr ⟨r, rfl⟩
      rw [if_pos hs]
      rfl
    | true =>
      rw [if_neg, if_pos]
      · rfl
      · rw [hb rfl, Bool.true_and]
        exact startsWith_iff.mpr ⟨r, rfl⟩
      · rw [startsWith_iff]
        rintro ⟨r', hr⟩
        cases hr

/-- The blanks at the head of a text, and what comes after them. -/
theorem exists_blanks (cs : List Char) : ∃ lead rest, cs = lead ++ rest ∧
    (∀ a ∈ lead, isBlank a = true) ∧ (∀ a ∈ rest.head?, isBlank a = false) ∧
    cs.takeWhile isBlank = lead ∧ cs.dropWhile isBlank = rest := by
  refine ⟨cs.takeWhile isBlank, cs.dropWhile isBlank, List.takeWhile_append_dropWhile.symm,
    fun a ha => all_of_mem_takeWhile ha, fun a ha => ?_, rfl, rfl⟩
  cases hd : cs.dropWhile isBlank with
  | nil =>
    rw [hd] at ha
    cases ha
  | cons b r =>
    rw [hd] at ha
    cases ha
    exact head_dropWhile hd

/-- All that can follow an opening delimiter: an item after some blanks, or the end of the
action. -/
inductive ReadsItems : Nat → List Char → Body → Prop
  | close {pos lead trim rest} : LeadsTo trim lead →
      ReadsItems pos (lead ++ (closer trim ++ rest))
        ⟨false, [], pos + lead.length, pos + lead.length + (closer trim).length, trim, rest⟩
  | item {pos lead c r item n b} : (∀ a ∈ lead, isBlank a = true) → ReadsItem c r item n →
      ReadsItems (pos + lead.length + n + 1) (r.drop n) b →
      ReadsItems pos (lead ++ c :: r) (b.push ⟨item, pos + lead.length⟩)

theorem ReadsItem.not_closer {c : Char} {r : List Char} {item : Item} {n : Nat}
    (h : ReadsItem c r item n) (trim : Bool) (r' : List Char) : c :: r ≠ closer trim ++ r' := by
  intro he
  cases trim with
  | false => exact h.head_ne (a := closeBrace) (by decide) (List.cons.inj he).1
  | true =>
    obtain ⟨rfl, rfl⟩ := List.cons.inj he
    rcases h.head with h | h | h | h | ⟨-, a, ha, hd⟩
    · exact absurd h (by decide)
    · exact absurd h (by decide)
    · exact absurd h (by decide)
    · exact absurd h (by decide)
    · cases ha
      exact absurd hd (by decide)

theorem closer_head (trim : Bool) (r : List Char) :
    ∃ c r', closer trim ++ r = c :: r' ∧ isBlank c = false := by
  cases trim with
  | false => exact ⟨_, _, rfl, by decide⟩
  | true => exact ⟨_, _, rfl, by decide⟩

theorem LeadsTo.blanks_ne {trim : Bool} {lead : List Char} (h : LeadsTo trim lead)
    (ht : trim = true) : (lead.length != 0) = true := by
  have := List.length_pos_iff.mpr (h.ne_nil ht)
  simp only [bne_iff_ne]
  omega

theorem itemsAt_cons {start pos : Nat} {lead r : List Char} {c : Char}
    (hl : ∀ a ∈ lead, isBlank a = true) (hc : isBlank c = false) :
    itemsAt start pos (lead ++ c :: r) =
      match closeAt (lead.length != 0) (c :: r) with
      | some (n, trim) =>
        .ok ⟨false, [], pos + lead.length, pos + lead.length + n, trim, (c :: r).drop n⟩
      | none =>
        match itemAt c r with
        | .error (.flaw e) => .error (.flaw start e)
        | .error (.limit e) => .error (.limit e)
        | .ok (item, n) =>
          (itemsAt start (pos + lead.length + n + 1) (r.drop n)).map
            (.push ⟨item, pos + lead.length⟩) := by
  rw [itemsAt]
  split
  · next hd =>
    rw [dropWhile_append_cons hl hc] at hd
    cases hd
  · next hd =>
    rw [dropWhile_append_cons hl hc] at hd
    cases hd
    have hblanks : (lead ++ c :: r).takeWhile isBlank = lead := takeWhile_append_cons hl hc
    generalize (lead ++ c :: r).takeWhile isBlank = blanks at hblanks ⊢
    subst hblanks
    rfl

theorem itemsAt_of_readsItems {start pos : Nat} {cs : List Char} {b : Body}
    (h : ReadsItems pos cs b) : itemsAt start pos cs = .ok b := by
  induction h with
  | @close pos lead trim rest hl =>
    obtain ⟨c, r, hc, hb⟩ := closer_head trim rest
    have hclose : closeAt (lead.length != 0) (c :: r) = some ((closer trim).length, trim) :=
      closeAt_eq_some_iff.mpr ⟨rfl, hl.blanks_ne, rest, hc.symm⟩
    rw [hc, itemsAt_cons hl.blank hb, hclose]
    dsimp only
    rw [← hc, List.drop_left]
  | @item pos lead c r item n b hl hi _ ih =>
    have hclose : closeAt (lead.length != 0) (c :: r) = none := by
      rw [Option.eq_none_iff_forall_not_mem]
      rintro ⟨k, trim⟩ hk
      obtain ⟨-, -, r', hr'⟩ := closeAt_eq_some_iff.mp hk
      exact hi.not_closer trim r' hr'
    rw [itemsAt_cons hl hi.not_isBlank, hclose, itemAt_of_readsItem hi]
    dsimp only
    rw [ih]
    rfl

theorem readsItems_of_itemsAt {start pos : Nat} {cs : List Char} {b : Body}
    (h : itemsAt start pos cs = .ok b) : ReadsItems pos cs b := by
  fun_induction itemsAt start pos cs generalizing b with
  | case1 | case3 | case4 => cases h
  | case2 pos cs blanks c r hd n trim =>
    rename_i hclose
    cases h
    obtain ⟨hn, hb, rest, hr⟩ := closeAt_eq_some_iff.mp hclose
    have hcs := List.takeWhile_append_dropWhile (p := isBlank) (l := cs)
    have hl : LeadsTo trim (cs.takeWhile isBlank) := by
      refine ⟨fun a ha => all_of_mem_takeWhile ha, fun ht he => ?_⟩
      have := hb ht
      simp [blanks, he] at this
    rw [hd, hr] at hcs
    rw [hr, hn, List.drop_left]
    have hread : ReadsItems pos (cs.takeWhile isBlank ++ (closer trim ++ rest)) _ := .close hl
    rwa [hcs] at hread
  | case5 pos cs blanks c r hd hclose item n hi =>
    rename_i ih
    obtain ⟨b', hb', rfl⟩ := map_eq_ok h
    have hcs := List.takeWhile_append_dropWhile (p := isBlank) (l := cs)
    rw [hd] at hcs
    have hread : ReadsItems pos (cs.takeWhile isBlank ++ c :: r) _ :=
      .item (fun a ha => all_of_mem_takeWhile ha) (readsItem_of_itemAt hi) (ih hb')
    rwa [hcs] at hread

theorem commentAt_of_before {start pos : Nat} {body s : List Char}
    (h : ¬ ['*', '/'] <:+: body ++ ['*']) :
    commentAt start pos ('/' :: '*' :: (body ++ '*' :: '/' :: s)) =
      match closeAt ((s.takeWhile isBlank).length != 0) (s.dropWhile isBlank) with
      | none => .error (.flaw start .textAfterComment)
      | some (n, trim) =>
        .ok ⟨true, [], pos + body.length + 4 + (s.takeWhile isBlank).length,
          pos + body.length + 4 + (s.takeWhile isBlank).length + n, trim,
          (s.dropWhile isBlank).drop n⟩ := by
  have hb : before? ['*', '/'] (('/' :: '*' :: (body ++ '*' :: '/' :: s)).drop 2) = some body := by
    have := before?_of_not_infix (r := s) (List.cons_ne_nil '*' ['/']) h
    rwa [List.append_assoc] at this
  have hd : ('/' :: '*' :: (body ++ '*' :: '/' :: s)).drop (body.length + 4) = s := by
    have : '/' :: '*' :: (body ++ '*' :: '/' :: s) = ('/' :: '*' :: (body ++ ['*', '/'])) ++ s := by
      simp
    rw [this]
    exact List.drop_left' (by simp)
  cases hc : closeAt ((s.takeWhile isBlank).length != 0) (s.dropWhile isBlank) with
  | none => simp only [commentAt, hb, hd, drop_takeWhile, hc]
  | some found => simp only [commentAt, hb, hd, drop_takeWhile, hc, ← List.drop_drop]

theorem commentAt_eq_ok_iff {start pos : Nat} {r : List Char} {b : Body} :
    commentAt start pos ('/' :: '*' :: r) = .ok b ↔ ∃ body trail trim rest,
      r = body ++ ('*' :: '/' :: (trail ++ (closer trim ++ rest))) ∧
      ¬ ['*', '/'] <:+: body ++ ['*'] ∧ LeadsTo trim trail ∧
      b = ⟨true, [], pos + body.length + 4 + trail.length,
        pos + body.length + 4 + trail.length + (closer trim).length, trim, rest⟩ := by
  constructor
  · intro h
    cases hb : before? ['*', '/'] r with
    | none =>
      unfold commentAt at h
      rw [List.drop_succ_cons, List.drop_succ_cons, List.drop_zero, hb] at h
      cases h
    | some body =>
      obtain ⟨s, hs⟩ := before?_eq_some hb
      have hn := not_infix_of_before? hb (List.cons_ne_nil '*' ['/'])
      rw [List.append_assoc] at hs
      subst hs
      have hcs := List.takeWhile_append_dropWhile (p := isBlank) (l := s)
      rw [List.cons_append, List.cons_append, List.nil_append, commentAt_of_before hn] at h
      split at h
      · cases h
      · next n trim hclose =>
        cases h
        obtain ⟨hk, hblank, rest, hr⟩ := closeAt_eq_some_iff.mp hclose
        refine ⟨body, s.takeWhile isBlank, trim, rest, ?_, hn, ⟨fun a ha => all_of_mem_takeWhile ha,
          fun ht he => ?_⟩, ?_⟩
        · rw [← hr, hcs]
          rfl
        · have := hblank ht
          simp [he] at this
        · rw [hk, hr, List.drop_left]
  · rintro ⟨body, trail, trim, rest, rfl, hn, hl, rfl⟩
    obtain ⟨c, r, hc, hb⟩ := closer_head trim rest
    have hclose : closeAt (trail.length != 0) (c :: r) = some ((closer trim).length, trim) :=
      closeAt_eq_some_iff.mpr ⟨rfl, hl.blanks_ne, rest, hc.symm⟩
    rw [commentAt_of_before hn, hc, takeWhile_append_cons hl.blank hb,
      dropWhile_append_cons hl.blank hb, hclose]
    dsimp only
    rw [← hc, List.drop_left]

/-- All that can follow an opening delimiter: a comment, or items up to the end of the action. -/
inductive ReadsBody : Nat → List Char → Body → Prop
  | items {pos cs b} : ReadsItems pos cs b → ReadsBody pos cs b
  | comment {pos lead body trail trim rest} : (∀ a ∈ lead, isBlank a = true) →
      ¬ ['*', '/'] <:+: body ++ ['*'] → LeadsTo trim trail →
      ReadsBody pos (lead ++ '/' :: '*' :: (body ++ '*' :: '/' :: (trail ++ (closer trim ++ rest))))
        ⟨true, [], pos + lead.length + body.length + 4 + trail.length,
          pos + lead.length + body.length + 4 + trail.length + (closer trim).length, trim, rest⟩

/-- No item, and no closing delimiter, begins with the mark of a comment. -/
theorem ReadsItems.head {pos : Nat} {cs : List Char} {b : Body} (h : ReadsItems pos cs b) :
    ∃ lead c r, cs = lead ++ c :: r ∧ (∀ a ∈ lead, isBlank a = true) ∧ isBlank c = false ∧
      c ≠ '/' := by
  cases h with
  | @close _ lead trim rest hl =>
    cases trim with
    | false => exact ⟨lead, _, _, rfl, hl.blank, by decide, by decide⟩
    | true => exact ⟨lead, _, _, rfl, hl.blank, by decide, by decide⟩
  | @item _ lead c r _ _ _ hl hi _ =>
    exact ⟨lead, c, r, rfl, hl, hi.not_isBlank, hi.head_ne (by decide)⟩

theorem bodyAt_of_readsBody {start pos : Nat} {cs : List Char} {b : Body} (h : ReadsBody pos cs b) :
    bodyAt start pos cs = .ok b := by
  unfold bodyAt
  dsimp only
  rw [drop_takeWhile]
  cases h with
  | items h =>
    obtain ⟨lead, c, r, hcs, hl, hb, hc⟩ := h.head
    rw [if_neg, itemsAt_of_readsItems h]
    rw [hcs, dropWhile_append_cons hl hb, startsWith_iff]
    rintro ⟨r', hr⟩
    exact hc (List.cons.inj hr).1
  | comment hl hn ht =>
    rw [dropWhile_append_cons hl (by decide), takeWhile_append_cons hl (by decide), if_pos]
    · exact commentAt_eq_ok_iff.mpr ⟨_, _, _, _, rfl, hn, ht, rfl⟩
    · exact startsWith_iff.mpr ⟨_, rfl⟩

theorem readsBody_of_bodyAt {start pos : Nat} {cs : List Char} {b : Body}
    (h : bodyAt start pos cs = .ok b) : ReadsBody pos cs b := by
  unfold bodyAt at h
  dsimp only at h
  rw [drop_takeWhile] at h
  split at h
  · next hs =>
    obtain ⟨r, hr⟩ := startsWith_iff.mp hs
    rw [List.cons_append, List.cons_append, List.nil_append] at hr
    rw [hr] at h
    obtain ⟨body, trail, trim, rest, rfl, hn, ht, rfl⟩ := commentAt_eq_ok_iff.mp h
    have hcs := List.takeWhile_append_dropWhile (p := isBlank) (l := cs)
    rw [hr] at hcs
    have hread : ReadsBody pos (cs.takeWhile isBlank ++
        '/' :: '*' :: (body ++ '*' :: '/' :: (trail ++ (closer trim ++ rest)))) _ :=
      .comment (fun a ha => all_of_mem_takeWhile ha) hn ht
    rwa [hcs] at hread
  · exact .items (readsItems_of_itemsAt h)

/-- What is known of a body and the characters `u` that stand before its closing delimiter. -/
structure BodyChars (pos : Nat) (u : List Char) (b : Body) : Prop where
  close : b.close = pos + u.length
  stop : b.stop = b.close + (closer b.trim).length
  blank_of_trim : b.trim = true → ∃ v c, u = v ++ [c] ∧ isBlank c = true
  last_of_not_trim : b.trim = false → u.getLast? ≠ some '-'
  ordered : b.items.Pairwise (·.pos < ·.pos)
  from_pos : ∀ t ∈ b.items, pos ≤ t.pos
  before_close : ∀ t ∈ b.items, t.pos < b.close

theorem getLast_of_blank {u : List Char} (h : ∀ a ∈ u, isBlank a = true) :
    u.getLast? ≠ some '-' := by
  intro hl
  exact absurd (h _ (List.mem_of_getLast? hl)) (by decide)

theorem LeadsTo.exists_last {trim : Bool} {lead : List Char} (h : LeadsTo trim lead)
    (ht : trim = true) : ∃ v c, lead = v ++ [c] ∧ isBlank c = true :=
  ⟨lead.dropLast, lead.getLast (h.ne_nil ht), (List.dropLast_concat_getLast _).symm,
    h.blank _ (List.getLast_mem _)⟩

theorem ReadsItems.exists_chars {pos : Nat} {cs : List Char} {b : Body} (h : ReadsItems pos cs b) :
    b.comment = false ∧ ∃ u, cs = u ++ (closer b.trim ++ b.rest) ∧ BodyChars pos u b := by
  induction h with
  | @close pos lead trim rest hl =>
    refine ⟨rfl, lead, rfl, rfl, rfl, hl.exists_last, fun _ => getLast_of_blank hl.blank, ?_, ?_,
      ?_⟩
    · exact .nil
    · intro t ht
      cases ht
    · intro t ht
      cases ht
  | @item pos lead c r item n b hl hi _ ih =>
    obtain ⟨hcomment, u, hu, hb⟩ := ih
    obtain ⟨w, r', hw, hn, hs⟩ := hi.split
    have hr : r.drop n = r' := by
      have : (c :: r).drop (n + 1) = r' := by rw [hw, ← hn, List.drop_left]
      simpa using this
    rw [hr] at hu
    have hcs : lead ++ c :: r = lead ++ (w ++ u) ++ (closer b.trim ++ b.rest) := by
      rw [hw, hu]
      simp
    refine ⟨hcomment, lead ++ (w ++ u), hcs, ?_, hb.stop, ?_, ?_, ?_, ?_, ?_⟩
    · have := hb.close
      simp only [Body.push, List.length_append]
      omega
    · intro ht
      obtain ⟨v, c', hv, hc'⟩ := hb.blank_of_trim ht
      exact ⟨lead ++ (w ++ v), c', by rw [hv]; simp, hc'⟩
    · intro ht
      -- With nothing between the item and the delimiter, the last character is the item's.
      have hlast := hb.last_of_not_trim ht
      rw [List.getLast?_append, List.getLast?_append]
      cases hu' : u.getLast? with
      | none =>
        have := hs.last
        rw [List.getLast?_eq_some_getLast hs.ne_nil] at this ⊢
        exact this
      | some a =>
        rw [hu'] at hlast
        exact hlast
    · refine List.pairwise_cons.mpr ⟨fun t ht => ?_, hb.ordered⟩
      have := hb.from_pos t ht
      dsimp only
      omega
    · intro t ht
      rcases List.mem_cons.mp ht with rfl | ht
      · exact Nat.le_add_right ..
      · have := hb.from_pos t ht
        omega
    · intro t ht
      have hclose := hb.close
      rcases List.mem_cons.mp ht with rfl | ht
      · simp only [Body.push]
        omega
      · exact hb.before_close t ht

/-- A comment as it stands before its closing delimiter. -/
structure IsCommentChars (trim : Bool) (u : List Char) : Prop where
  exists_parts : ∃ lead body trail, u = lead ++ '/' :: '*' :: (body ++ '*' :: '/' :: trail) ∧
    (∀ a ∈ lead, isBlank a = true) ∧ ¬ ['*', '/'] <:+: body ∧ LeadsTo trim trail

theorem ReadsBody.exists_chars {pos : Nat} {cs : List Char} {b : Body} (h : ReadsBody pos cs b) :
    ∃ u, cs = u ++ (closer b.trim ++ b.rest) ∧ BodyChars pos u b ∧
      (b.comment = true → IsCommentChars b.trim u) := by
  cases h with
  | items h =>
    obtain ⟨hcomment, u, hu, hb⟩ := h.exists_chars
    refine ⟨u, hu, hb, fun hc => ?_⟩
    rw [hcomment] at hc
    cases hc
  | @comment lead body trail trim rest hl hn ht =>
    have hbody : ¬ ['*', '/'] <:+: body := fun hi => hn (hi.trans (List.prefix_append ..).isInfix)
    refine ⟨lead ++ '/' :: '*' :: (body ++ '*' :: '/' :: trail), by simp, ?_,
      fun _ => ⟨lead, body, trail, rfl, hl, hbody, ht⟩⟩
    refine ⟨?_, rfl, fun htrim => ?_, fun _ => ?_, .nil, ?_, ?_⟩
    · simp only [List.length_append, List.length_cons]
      omega
    · obtain ⟨v, c, rfl, hc⟩ := ht.exists_last htrim
      exact ⟨lead ++ '/' :: '*' :: (body ++ '*' :: '/' :: v), c, by simp, hc⟩
    · have hs : IsSpelling ('/' :: trail) := by
        refine .of_forall (List.cons_ne_nil _ _) ?_
        rintro a ha rfl
        rcases List.mem_cons.mp ha with ha | ha
        · exact absurd ha (by decide)
        · exact absurd (ht.blank _ ha) (by decide)
      have := (hs.append (lead ++ '/' :: '*' :: (body ++ ['*']))).last
      simpa using this
    · intro t ht
      cases ht
    · intro t ht
      cases ht

end AlertRelay.Template
