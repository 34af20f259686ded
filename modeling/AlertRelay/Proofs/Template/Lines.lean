import AlertRelay.Proofs.Template.Scanning
import AlertRelay.Proofs.Text.Split
import AlertRelay.Template.Error

/-!
Lines and columns. They tell a position: from both of them and the lines of the source, the position
comes back.
-/

namespace AlertRelay.Template

open AlertRelay.Text

/-- The position in a source of a column, counted from zero, on a line, counted from one. The lines
before it stand in front, each with its line feed. -/
def offset (source : List Char) (line column : Nat) : Nat :=
  (((source.splitOn '\n').take (line - 1)).flatMap (· ++ ['\n'])).length + column

/-- How many characters stand behind the last line feed. -/
def endColumn (cs : List Char) : Nat := (cs.reverse.takeWhile (· != '\n')).length

variable {c : Char} {xs ys : List Char}

theorem ne_feed_of_mem_reverse (h : '\n' ∉ xs) : ∀ a ∈ xs.reverse, (a != '\n') = true := by
  intro a ha
  rw [bne_iff_ne]
  rintro rfl
  exact h (List.mem_reverse.mp ha)

theorem endColumn_of_not_mem (h : '\n' ∉ xs) : endColumn xs = xs.length := by
  have hall := takeWhile_append_stop (r := []) (ne_feed_of_mem_reverse h) nofun
  rw [List.append_nil] at hall
  rw [endColumn, hall, List.length_reverse]

theorem endColumn_cons_of_mem (c : Char) (h : '\n' ∈ xs) : endColumn (c :: xs) = endColumn xs := by
  rw [endColumn, List.reverse_cons, takeWhile_append_of_mem (List.mem_reverse.mpr h) rfl, endColumn]

theorem endColumn_feed (xs : List Char) : endColumn ('\n' :: xs) = endColumn xs := by
  by_cases h : '\n' ∈ xs
  · exact endColumn_cons_of_mem _ h
  · rw [endColumn_of_not_mem h, endColumn, List.reverse_cons,
      takeWhile_append_cons (ne_feed_of_mem_reverse h) rfl, List.length_reverse]

/-- The lines before the end of a text, and the column there, make up its length. -/
theorem offset_append (xs ys : List Char) :
    offset (xs ++ ys) (xs.count '\n' + 1) (endColumn xs) = xs.length := by
  unfold offset
  rw [Nat.add_sub_cancel]
  induction xs with
  | nil => simp [endColumn]
  | cons c xs ih =>
    rw [List.cons_append, List.splitOn_cons_eq_if_modifyHead, List.length_cons]
    by_cases hc : c = '\n'
    · subst hc
      rw [endColumn_feed, List.count_cons_self]
      simp only [beq_self_eq_true, if_true, List.take_succ_cons, List.flatMap_cons,
        List.nil_append, List.length_append, List.length_singleton]
      omega
    · rw [List.count_cons_of_ne hc]
      by_cases h : '\n' ∈ xs
      · obtain ⟨line, lines, hlines⟩ :=
          List.exists_cons_of_ne_nil (List.splitOn_ne_nil '\n' (xs ++ ys))
        obtain ⟨k, hk⟩ := Nat.exists_eq_succ_of_ne_zero (Nat.pos_iff_ne_zero.mp
          (List.count_pos_iff.mpr h))
        rw [endColumn_cons_of_mem c h, ← ih, hlines, hk]
        simp [hc]
        omega
      · have hnot : '\n' ∉ c :: xs := by simp [h, Ne.symm hc]
        rw [endColumn_of_not_mem hnot, List.count_eq_zero_of_not_mem h]
        simp

/-- The line and the column of a position lead back to it. -/
theorem offset_lineAt_columnAt {source : List Char} {pos : Nat} (h : pos ≤ source.length) :
    offset source (lineAt source pos) (columnAt source pos) = pos := by
  have hsplit := offset_append (source.take pos) (source.drop pos)
  rw [List.take_append_drop, List.length_take, Nat.min_eq_left h] at hsplit
  exact hsplit

end AlertRelay.Template
