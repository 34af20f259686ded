import AlertRelay.Text.Split

/-!
Texts cut at a separator, and put together again; and runs at the head of a text.
-/

namespace AlertRelay.Text

theorem mem_intercalate {α : Type} {sep a : α} {ls : List (List α)}
    (h : a ∈ [sep].intercalate ls) : a = sep ∨ ∃ l ∈ ls, a ∈ l := by
  induction ls with
  | nil => cases h
  | cons l ls ih =>
    cases ls with
    | nil =>
      rw [List.intercalate_singleton] at h
      exact .inr ⟨l, List.mem_cons_self, h⟩
    | cons m ls =>
      rw [List.intercalate_cons_cons, List.append_assoc] at h
      rcases List.mem_append.mp h with h | h
      · exact .inr ⟨l, List.mem_cons_self, h⟩
      · rcases List.mem_cons.mp h with rfl | h
        · exact .inl rfl
        · obtain h | ⟨k, hk, ha⟩ := ih h
          · exact .inl h
          · exact .inr ⟨k, List.mem_cons_of_mem l hk, ha⟩

theorem flatMap_intercalate {α : Type} {sep : α} {f : α → List α} (hsep : f sep = [sep])
    (ls : List (List α)) :
    ([sep].intercalate ls).flatMap f = [sep].intercalate (ls.map (·.flatMap f)) := by
  induction ls with
  | nil => rfl
  | cons l ls ih =>
    cases ls with
    | nil => simp
    | cons m ls =>
      rw [List.intercalate_cons_cons, List.flatMap_append, List.flatMap_append, ih,
        List.flatMap_singleton, hsep]
      exact List.intercalate_cons_cons.symm

section Parts

variable {sep c : Char} {cs p : List Char}

theorem splitAt_eq_splitOn (sep : Char) (cs : List Char) : splitAt sep cs = cs.splitOn sep := by
  induction cs with
  | nil => rfl
  | cons c cs ih =>
    rw [List.splitOn_cons_eq_if_modifyHead, splitAt, ih]
    split
    · rfl
    · cases hs : cs.splitOn sep with
      | nil => exact absurd hs (List.splitOn_ne_nil sep cs)
      | cons p ps => rfl

theorem splitAt_ne_nil (sep : Char) (cs : List Char) : splitAt sep cs ≠ [] :=
  splitAt_eq_splitOn sep cs ▸ List.splitOn_ne_nil sep cs

theorem intercalate_splitAt (sep : Char) (cs : List Char) :
    [sep].intercalate (splitAt sep cs) = cs := by
  rw [splitAt_eq_splitOn, List.intercalate_splitOn]

theorem splitAt_intercalate {ps : List (List Char)} (h : ∀ p ∈ ps, sep ∉ p) (hne : ps ≠ []) :
    splitAt sep ([sep].intercalate ps) = ps := by
  rw [splitAt_eq_splitOn, List.splitOn_intercalate sep h hne]

theorem not_mem_of_mem_splitAt (h : p ∈ splitAt sep cs) : sep ∉ p := by
  induction cs generalizing p with
  | nil =>
    rw [List.mem_singleton.mp h]
    exact List.not_mem_nil
  | cons c cs ih =>
    unfold splitAt at h
    split at h
    · rcases List.mem_cons.mp h with rfl | h
      · exact List.not_mem_nil
      · exact ih h
    · next hc =>
      obtain ⟨q, qs, hq⟩ := List.exists_cons_of_ne_nil (splitAt_ne_nil sep cs)
      rw [hq] at h ih
      rcases List.mem_cons.mp h with rfl | h
      · rw [List.mem_cons, not_or]
        exact ⟨fun heq => hc (beq_iff_eq.mpr heq.symm), ih List.mem_cons_self⟩
      · exact ih (List.mem_cons_of_mem q h)

/-- Every character stands in one of the parts or separates them. -/
theorem exists_mem_splitAt (h : c ∈ cs) : c = sep ∨ ∃ p ∈ splitAt sep cs, c ∈ p := by
  rw [← intercalate_splitAt sep cs] at h
  exact mem_intercalate h

/-- A text with more than one part holds the separator. -/
theorem mem_of_one_lt_length_splitAt (h : 1 < (splitAt sep cs).length) : sep ∈ cs := by
  refine Decidable.not_not.mp fun hn => ?_
  rw [splitAt_eq_splitOn, List.splitOn_eq_singleton hn] at h
  exact absurd h (by simp)

/-- Replacing characters other than the separator does not move the places of the cuts. -/
theorem splitAt_flatMap {f : Char → List Char} (hsep : f sep = [sep])
    (hf : ∀ c, c ≠ sep → sep ∉ f c) (cs : List Char) :
    splitAt sep (cs.flatMap f) = (splitAt sep cs).map (·.flatMap f) := by
  conv => lhs; rw [← intercalate_splitAt sep cs, flatMap_intercalate hsep]
  refine splitAt_intercalate (fun p hp => ?_) (by simpa using splitAt_ne_nil sep cs)
  obtain ⟨q, hq, rfl⟩ := List.mem_map.mp hp
  intro hmem
  obtain ⟨c, hc, hmem⟩ := List.mem_flatMap.mp hmem
  exact hf c (fun heq => not_mem_of_mem_splitAt hq (heq ▸ hc)) hmem

end Parts

/-! Runs of characters that end where one is not accepted, or at the end. -/

section Runs

variable {p : Char → Bool} {xs r : List Char}

theorem takeWhile_append_stop (h : ∀ c ∈ xs, p c = true) (hr : ∀ c ∈ r.head?, p c = false) :
    (xs ++ r).takeWhile p = xs := by
  rw [List.takeWhile_append_of_pos h]
  cases r with
  | nil => simp
  | cons c r => rw [List.takeWhile_cons_of_neg (by simp [hr c rfl]), List.append_nil]

theorem dropWhile_append_stop (h : ∀ c ∈ xs, p c = true) (hr : ∀ c ∈ r.head?, p c = false) :
    (xs ++ r).dropWhile p = r := by
  rw [List.dropWhile_append_of_pos h]
  cases r with
  | nil => rfl
  | cons c r => exact List.dropWhile_cons_of_neg (by simp [hr c rfl])

end Runs

end AlertRelay.Text
