import AlertRelay.Text.Blank

/-!
Trimming takes away what stands around a text, and nothing of the text.
-/

namespace AlertRelay.Text

variable {p : Char → Bool} {front cs back : List Char}

theorem dropWhile_surrounded (hfront : ∀ c ∈ front, p c = true) (hcs : ∀ c ∈ cs, p c = false)
    (hne : cs ≠ []) : (front ++ (cs ++ back)).dropWhile p = cs ++ back := by
  rw [List.dropWhile_append_of_pos hfront]
  cases cs with
  | nil => exact absurd rfl hne
  | cons c cs => exact List.dropWhile_cons_of_neg (by simp [hcs c])

theorem trimBy_surrounded (hfront : ∀ c ∈ front, p c = true) (hcs : ∀ c ∈ cs, p c = false)
    (hback : ∀ c ∈ back, p c = true) (hne : cs ≠ []) : trimBy p (front ++ (cs ++ back)) = cs := by
  have hreverse : (back.reverse ++ (cs.reverse ++ [])).dropWhile p = cs.reverse ++ [] :=
    dropWhile_surrounded (by simpa using hback) (by simpa using hcs) (by simpa using hne)
  rw [trimBy, dropWhile_surrounded hfront hcs hne, List.reverse_append]
  simpa using congrArg List.reverse hreverse

theorem trimBy_eq_self (h : ∀ c ∈ cs, p c = false) : trimBy p cs = cs := by
  by_cases hne : cs = []
  · simp [hne, trimBy]
  · have htrim : trimBy p ([] ++ (cs ++ [])) = cs := trimBy_surrounded nofun h nofun hne
    simpa using htrim

end AlertRelay.Text
