import AlertRelay.Proofs.Template.Ordering

/-!
Comparisons with their operands swapped. `gt` and `ge` are the negations of `le` and `lt`, which
makes them their mirror images only where the operands are ordered.
-/

namespace AlertRelay.Template

open AlertRelay.Number

variable {a b : Value}

/-- What a function of two values comes to, whatever the failure is. -/
def outcome (f : Builtin) (a b : Value) : Option Value := (f.apply [a, b]).toOption

/-- Two numbers of which one, or both, are no number that could be ordered. -/
structure Unordered (a b : Value) : Prop where
  left : Value.OfKind .number a
  right : Value.OfKind .number b
  nan : a = .float .nan ∨ b = .float .nan

theorem Unordered.symm (h : Unordered a b) : Unordered b a := ⟨h.right, h.left, h.nan.symm⟩

theorem Answers.outcome {f : Builtin} {t : Bool} (h : Answers f a b t) :
    outcome f a b = some (.bool t) := by
  rw [Template.outcome, show f.apply [a, b] = _ from h]
  rfl

theorem Fails.outcome {f : Builtin} (h : Fails f a b) : outcome f a b = none := by
  obtain ⟨e, he⟩ := h
  rw [Template.outcome, he]
  rfl

theorem ComparedAs.mirrored {α : Type} [LinearOrder α] {x y : α} (h : ComparedAs x y a b)
    (h' : ComparedAs y x b a) : outcome .gt a b = outcome .lt b a ∧
      outcome .ge a b = outcome .le b a :=
  ⟨h.gt.outcome.trans h'.lt.outcome.symm, h.ge.outcome.trans h'.le.outcome.symm⟩

theorem exactValue?_eq_none_iff (h : Value.OfKind .number a) :
    a.exactValue? = none ↔ a = .float .nan := by
  cases h with
  | whole => simp [Value.exactValue?]
  | @fraction x =>
    cases x with
    | nan => simp [Value.exactValue?, Double.exactValue?]
    | infinite s => cases s <;> simp [Value.exactValue?, Double.exactValue?]
    | finite s => cases s <;> simp [Value.exactValue?, Double.exactValue?]

theorem Unordered.before_same (h : Unordered a b) : a.before b = false ∧ a.same b = false := by
  obtain ⟨q, r, hq, hr, hbefore, hsame⟩ := Value.exists_quantities h.left h.right
  rw [hbefore, hsame]
  apply Quantity.unordered
  rw [hq, hr, exactValue?_eq_none_iff h.left, exactValue?_eq_none_iff h.right]
  exact h.nan

/-- What is not ordered counts as greater, and not as less. -/
theorem Unordered.outcomes (h : Unordered a b) :
    outcome .lt a b = some (.bool false) ∧ outcome .le a b = some (.bool false) ∧
      outcome .gt a b = some (.bool true) ∧ outcome .ge a b = some (.bool true) := by
  obtain ⟨hbefore, hsame⟩ := h.before_same
  have hanswers := answersBy_of_kind (.inl rfl) h.left h.right
  rw [hbefore, hsame] at hanswers
  exact ⟨hanswers.lt.outcome, hanswers.le.outcome, hanswers.gt.outcome, hanswers.ge.outcome⟩

/-- Values that can be ordered have ranks in one order, unless one is no number. -/
theorem mirrored_of_orderable (h : Value.Orderable a b) (hn : ¬ Unordered a b) :
    outcome .gt a b = outcome .lt b a ∧ outcome .ge a b = outcome .le b a := by
  obtain ⟨k, rfl | rfl, ha, hb⟩ := h
  · have hsome : (∃ x, a.exactValue? = some x) ∧ ∃ y, b.exactValue? = some y := by
      rw [← Option.isSome_iff_exists, ← Option.isSome_iff_exists, ← Option.ne_none_iff_isSome,
        ← Option.ne_none_iff_isSome, ne_eq, ne_eq, exactValue?_eq_none_iff ha,
        exactValue?_eq_none_iff hb, ← not_or]
      exact fun hnan => hn ⟨ha, hb, hnan⟩
    obtain ⟨⟨x, hx⟩, y, hy⟩ := hsome
    have hfollows := followsOrder Value.comparesBy_exact
    exact (hfollows a b x y hx hy).mirrored (hfollows b a y x hy hx)
  · have hfollows := followsOrder Value.comparesBy_codes
    cases ha with
    | text =>
      cases hb with
      | text => exact (hfollows _ _ _ _ rfl rfl).mirrored (hfollows _ _ _ _ rfl rfl)

theorem mirrored_of_not_orderable (h : ¬ Value.Orderable a b) :
    outcome .gt a b = outcome .lt b a ∧ outcome .ge a b = outcome .le b a := by
  have h' : ¬ Value.Orderable b a := fun ⟨k, hk, hb, ha⟩ => h ⟨k, hk, ha, hb⟩
  have hfails := fails_of_not_orderable h
  have hfails' := fails_of_not_orderable h'
  rw [(hfails .gt (by simp)).outcome, (hfails .ge (by simp)).outcome,
    (hfails' .lt (by simp)).outcome, (hfails' .le (by simp)).outcome]
  exact ⟨rfl, rfl⟩

/-- With the operands swapped, `gt` comes to what `lt` does and `ge` to what `le` does, exactly
unless both operands are numbers and one of them is not ordered. -/
theorem comparisons_mirrored (a b : Value) :
    (outcome .gt a b = outcome .lt b a ↔ ¬ Unordered a b) ∧
      (outcome .ge a b = outcome .le b a ↔ ¬ Unordered a b) := by
  by_cases hn : Unordered a b
  · obtain ⟨-, -, hgt, hge⟩ := hn.outcomes
    obtain ⟨hlt, hle, -, -⟩ := hn.symm.outcomes
    rw [hgt, hge, hlt, hle]
    simp [hn]
  · by_cases h : Value.Orderable a b
    · obtain ⟨hgt, hge⟩ := mirrored_of_orderable h hn
      exact ⟨iff_of_true hgt hn, iff_of_true hge hn⟩
    · obtain ⟨hgt, hge⟩ := mirrored_of_not_orderable h
      exact ⟨iff_of_true hgt hn, iff_of_true hge hn⟩

/-- What is no number is found to be greater than one, which is not found to be less than it. -/
theorem nan_greater :
    outcome .gt (.float .nan) (.int 1) = some (.bool true) ∧
      outcome .lt (.int 1) (.float .nan) = some (.bool false) ∧
      outcome .ge (.float .nan) (.int 1) = some (.bool true) ∧
      outcome .le (.int 1) (.float .nan) = some (.bool false) := by
  have h : Unordered (.float .nan) (.int 1) := ⟨.fraction, .whole, .inl rfl⟩
  exact ⟨h.outcomes.2.2.1, h.symm.outcomes.1, h.outcomes.2.2.2, h.symm.outcomes.2.1⟩

end AlertRelay.Template
