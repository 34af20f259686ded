import AlertRelay.Proofs.Text.Split
import AlertRelay.Proofs.Url.Escaping
import AlertRelay.Url.Basic

/-!
Paths. One without segments of dots has no more of them when it is escaped, so that it is not
changed by being read again.
-/

namespace AlertRelay.Url

open AlertRelay.Text

variable {path segment : List Char} {done segments : List (List Char)}

/-- A segment that moves within a path and is no part of it. -/
def IsDots (segment : List Char) : Prop := segment = ['.'] ∨ segment = ['.', '.']

theorem addSegment_of_not_isDots (h : ¬ IsDots segment) :
    addSegment done segment = segment :: done := by
  rw [IsDots, not_or] at h
  rw [addSegment, if_neg (by simpa using h.1), if_neg (by simpa using h.2)]

theorem mem_addSegment {s : List Char} (h : s ∈ addSegment done segment) :
    s ∈ done ∨ (s = segment ∧ ¬ IsDots segment) := by
  by_cases hd : IsDots segment
  · refine .inl ?_
    unfold addSegment at h
    rcases hd with rfl | rfl
    · exact h
    · split at h
      · exact h
      · split at h
        · split at h
          · exact h
          · exact List.mem_of_mem_drop h
        · next hne => exact absurd rfl hne
  · rw [addSegment_of_not_isDots hd] at h
    exact (List.mem_cons.mp h).elim (fun heq => .inr ⟨heq, hd⟩) .inl

theorem mem_foldl_addSegment {s : List Char} (h : s ∈ segments.foldl addSegment done) :
    s ∈ done ∨ (s ∈ segments ∧ ¬ IsDots s) := by
  induction segments generalizing done with
  | nil => exact .inl h
  | cons segment segments ih =>
    rcases ih h with h | ⟨h, hd⟩
    · rcases mem_addSegment h with h | ⟨rfl, hd⟩
      · exact .inl h
      · exact .inr ⟨List.mem_cons_self, hd⟩
    · exact .inr ⟨List.mem_cons_of_mem segment h, hd⟩

theorem foldl_addSegment_of_not_isDots (h : ∀ s ∈ segments, ¬ IsDots s) :
    segments.foldl addSegment done = segments.reverse ++ done := by
  induction segments generalizing done with
  | nil => rfl
  | cons segment segments ih =>
    rw [List.foldl_cons, addSegment_of_not_isDots (h segment List.mem_cons_self),
      ih fun s hs => h s (List.mem_cons_of_mem segment hs), List.reverse_cons, List.append_assoc]
    rfl

theorem removeDots_eq_self (h : ∀ s ∈ splitAt '/' path, ¬ IsDots s) : removeDots path = path := by
  rw [removeDots, foldl_addSegment_of_not_isDots h, List.append_nil, List.reverse_reverse,
    intercalate_splitAt]

/-- No segment of dots is left. -/
theorem not_isDots_of_mem_splitAt (h : segment ∈ splitAt '/' (removeDots path)) :
    ¬ IsDots segment := by
  unfold removeDots at h
  generalize hss : ((splitAt '/' path).foldl addSegment []).reverse = ss at h
  have hleft : ∀ s ∈ ss, s ∈ splitAt '/' path ∧ ¬ IsDots s := by
    rw [← hss]
    intro s hs
    exact (mem_foldl_addSegment (List.mem_reverse.mp hs)).resolve_left List.not_mem_nil
  by_cases hne : ss = []
  · rw [hne] at h
    obtain rfl : segment = [] := List.mem_singleton.mp h
    simp [IsDots]
  · rw [splitAt_intercalate (fun s hs => not_mem_of_mem_splitAt (hleft s hs).1) hne] at h
    exact (hleft segment h).2

theorem splitAt_escape (path : List Char) : splitAt '/' (escape pathSafe path) =
    (splitAt '/' path).map (escape pathSafe) := by
  have hslash : ∀ c, c ≠ '/' → '/' ∉ escapeChar pathSafe c := by
    intro c hc hmem
    by_cases hk : Kept pathSafe c
    · rw [escapeChar_of_kept hk, List.mem_singleton] at hmem
      exact hc hmem.symm
    · rw [escapeChar_of_not_kept hk] at hmem
      rcases mem_percent hmem with h | h
      · exact absurd h (by decide)
      · exact absurd h (by decide)
  have hescape : escape pathSafe = fun cs => cs.flatMap (escapeChar pathSafe) :=
    funext isSafeSet_pathSafe.escape_eq_flatMap
  rw [hescape]
  exact splitAt_flatMap (escapeChar_of_kept (by decide)) hslash path

theorem isDots_of_escape (h : IsDots (escape pathSafe segment)) : IsDots segment := by
  have hsign : '%' ∉ escape pathSafe segment := by
    rcases h with h | h <;> rw [h] <;> decide
  rwa [isSafeSet_pathSafe.escape_eq_self hsign] at h

/-- A path in normal form is not changed by being read. -/
theorem removeDots_escape (path : List Char) :
    removeDots (escape pathSafe (removeDots path)) = escape pathSafe (removeDots path) := by
  refine removeDots_eq_self fun s hs => ?_
  rw [splitAt_escape] at hs
  obtain ⟨segment, hsegment, rfl⟩ := List.mem_map.mp hs
  exact fun hd => not_isDots_of_mem_splitAt hsegment (isDots_of_escape hd)

/-! What begins with a slash keeps it, unless nothing is left. -/

/-- A path that may follow a host. -/
def IsRooted (path : List Char) : Prop := path = [] ∨ path.head? = some '/'

theorem getLast?_addSegment (h : done.getLast? = some []) :
    (addSegment done segment).getLast? = some [] := by
  unfold addSegment
  split
  · exact h
  · split
    · split
      · exact h
      · next hone =>
        match done with
        | [] => cases h
        | [s] =>
          obtain rfl : s = [] := Option.some.inj h
          exact absurd rfl hone
        | s :: t :: rest => simpa using h
    · match done with
      | [] => cases h
      | s :: rest => simpa using h

theorem getLast?_foldl_addSegment (h : done.getLast? = some []) :
    (segments.foldl addSegment done).getLast? = some [] := by
  induction segments generalizing done with
  | nil => exact h
  | cons segment segments ih => exact ih (getLast?_addSegment h)

theorem isRooted_removeDots (h : IsRooted path) : IsRooted (removeDots path) := by
  match path with
  | [] => exact .inl rfl
  | c :: rest =>
    obtain rfl : c = '/' := by simpa [IsRooted] using h
    -- The slash leaves an empty segment in front, which two dots never take away.
    have hlast : ((splitAt '/' rest).foldl addSegment [[]]).getLast? = some [] :=
      getLast?_foldl_addSegment rfl
    unfold removeDots
    change IsRooted (['/'].intercalate ((splitAt '/' rest).foldl addSegment [[]]).reverse)
    rw [← List.head?_reverse] at hlast
    match ((splitAt '/' rest).foldl addSegment [[]]).reverse, hlast with
    | [s], hlast =>
      obtain rfl : s = [] := Option.some.inj hlast
      exact .inl rfl
    | s :: t :: ss, hlast =>
      obtain rfl : s = [] := Option.some.inj hlast
      rw [List.intercalate_cons_cons]
      exact .inr rfl

theorem isRooted_escape (h : IsRooted path) : IsRooted (escape pathSafe path) := by
  rw [isSafeSet_pathSafe.escape_eq_flatMap]
  match path with
  | [] => exact .inl rfl
  | c :: rest =>
    obtain rfl : c = '/' := by simpa [IsRooted] using h
    exact .inr rfl

end AlertRelay.Url
