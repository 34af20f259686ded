import AlertRelay.Proofs.Value.Comparison
import AlertRelay.Template.Function
import Mathlib.Tactic.NormNum

/-!
The functions that compare two values. On numbers and on texts they are those of a total order; on
values that cannot be compared they fail.
-/

namespace AlertRelay.Template

open AlertRelay.Number

variable {f : Builtin} {a b c : Value}

/-- A function of two values gives a truth value. -/
def Answers (f : Builtin) (a b : Value) (t : Bool) : Prop := f.apply [a, b] = .ok (.bool t)

def Holds (f : Builtin) (a b : Value) : Prop := Answers f a b true

def Fails (f : Builtin) (a b : Value) : Prop := ∃ e, f.apply [a, b] = .error e

/-- The answers for two values of which the first comes before the second or not, and equals it or
not. -/
structure AnswersBy (before same : Bool) (a b : Value) : Prop where
  eq : Answers .eq a b same
  ne : Answers .ne a b !same
  lt : Answers .lt a b before
  le : Answers .le a b (before || same)
  gt : Answers .gt a b !(before || same)
  ge : Answers .ge a b !before

theorem answersBy_of_kind {k : Value.Kind} (hk : k.IsOrdered) (ha : Value.OfKind k a)
    (hb : Value.OfKind k b) : AnswersBy (a.before b) (a.same b) a b where
  eq := congrArg bool (Value.eq_of_kind ha hb)
  ne := congrArg bool (Value.ne_of_kind ha hb)
  lt := congrArg bool (Value.lt_of_kind ha hb hk)
  le := congrArg bool (Value.le_of_kind ha hb hk)
  gt := congrArg bool (Value.gt_of_kind ha hb hk)
  ge := congrArg bool (Value.ge_of_kind ha hb hk)

/-- Two values are compared as `x` and `y` are. -/
structure ComparedAs {α : Type} [LinearOrder α] (x y : α) (a b : Value) : Prop where
  eq : Answers .eq a b (decide (x = y))
  ne : Answers .ne a b (decide (x ≠ y))
  lt : Answers .lt a b (decide (x < y))
  le : Answers .le a b (decide (x ≤ y))
  gt : Answers .gt a b (decide (y < x))
  ge : Answers .ge a b (decide (y ≤ x))

/-- Values that have a rank are compared as their ranks are. -/
def FollowsOrder {α : Type} [LinearOrder α] (rank : Value → Option α) : Prop :=
  ∀ a b x y, rank a = some x → rank b = some y → ComparedAs x y a b

/-- The functions are those of one total order on some values. -/
structure OrdersTotally (P : Value → Prop) : Prop where
  answers : ∀ {a b}, P a → P b → ∀ f ∈ [Builtin.eq, .ne, .lt, .le, .gt, .ge], ∃ t, Answers f a b t
  trichotomy : ∀ {a b}, P a → P b →
    Holds .lt a b ∧ ¬ Holds .eq a b ∧ ¬ Holds .lt b a ∨
      ¬ Holds .lt a b ∧ Holds .eq a b ∧ ¬ Holds .lt b a ∨
      ¬ Holds .lt a b ∧ ¬ Holds .eq a b ∧ Holds .lt b a
  ne : ∀ {a b}, P a → P b → (Holds .ne a b ↔ ¬ Holds .eq a b)
  le : ∀ {a b}, P a → P b → (Holds .le a b ↔ Holds .lt a b ∨ Holds .eq a b)
  gt : ∀ {a b}, P a → P b → (Holds .gt a b ↔ ¬ Holds .le a b)
  ge : ∀ {a b}, P a → P b → (Holds .ge a b ↔ ¬ Holds .lt a b)
  eq_refl : ∀ {a}, P a → Holds .eq a a
  eq_symm : ∀ {a b}, P a → P b → Holds .eq a b → Holds .eq b a
  eq_trans : ∀ {a b c}, P a → P b → P c → Holds .eq a b → Holds .eq b c → Holds .eq a c
  lt_trans : ∀ {a b c}, P a → P b → P c → Holds .lt a b → Holds .lt b c → Holds .lt a c
  lt_congr : ∀ {a b c}, P a → P b → P c → Holds .eq a b →
    (Holds .lt a c ↔ Holds .lt b c) ∧ (Holds .lt c a ↔ Holds .lt c b)

theorem holds_iff {p : Prop} [Decidable p] (h : Answers f a b (decide p)) : Holds f a b ↔ p := by
  rw [Holds, Answers, show f.apply [a, b] = _ from h]
  simp

section Order

variable {α : Type} [LinearOrder α] {x y z : α} {rank : Value → Option α}

theorem AnswersBy.comparedAs (h : AnswersBy (decide (x < y)) (decide (x = y)) a b) :
    ComparedAs x y a b := by
  have hne : (!decide (x = y)) = decide (x ≠ y) := by rw [← decide_not]
  have hle : (decide (x < y) || decide (x = y)) = decide (x ≤ y) := by
    simp [le_iff_lt_or_eq]
  have hgt : (!decide (x ≤ y)) = decide (y < x) := by
    rw [← decide_not, decide_eq_decide, not_le]
  have hge : (!decide (x < y)) = decide (y ≤ x) := by
    rw [← decide_not, decide_eq_decide, not_lt]
  obtain ⟨eq, ne, lt, le, gt, ge⟩ := h
  rw [hne] at ne
  rw [hle] at le gt
  rw [hgt] at gt
  rw [hge] at ge
  exact ⟨eq, ne, lt, le, gt, ge⟩

theorem followsOrder (h : Value.ComparesBy rank) : FollowsOrder rank := by
  intro a b x y ha hb
  obtain ⟨k, hk, hkind⟩ := h.kind
  have hlt : a.before b = decide (x < y) := by
    rw [Bool.eq_iff_iff, h.before ha hb, decide_eq_true_iff]
  have heq : a.same b = decide (x = y) := by
    rw [Bool.eq_iff_iff, h.same ha hb, decide_eq_true_iff]
  have hanswers := answersBy_of_kind hk (hkind a x ha) (hkind b y hb)
  rw [hlt, heq] at hanswers
  exact hanswers.comparedAs

theorem ComparedAs.lt_iff (h : ComparedAs x y a b) : Holds .lt a b ↔ x < y := holds_iff h.lt

theorem ComparedAs.eq_iff (h : ComparedAs x y a b) : Holds .eq a b ↔ x = y := holds_iff h.eq

theorem ComparedAs.le_iff (h : ComparedAs x y a b) : Holds .le a b ↔ x ≤ y := holds_iff h.le

/-- What is compared as ranks are is ordered totally, since the ranks are. -/
theorem FollowsOrder.ordersTotally (h : FollowsOrder rank) :
    OrdersTotally fun v => ∃ x, rank v = some x where
  answers := by
    rintro a b ⟨x, hx⟩ ⟨y, hy⟩ f hf
    have hab := h a b x y hx hy
    simp only [List.mem_cons, List.not_mem_nil, or_false] at hf
    obtain rfl | rfl | rfl | rfl | rfl | rfl := hf
    exacts [⟨_, hab.eq⟩, ⟨_, hab.ne⟩, ⟨_, hab.lt⟩, ⟨_, hab.le⟩, ⟨_, hab.gt⟩, ⟨_, hab.ge⟩]
  trichotomy := by
    rintro a b ⟨x, hx⟩ ⟨y, hy⟩
    have hab := h a b x y hx hy
    rw [hab.lt_iff, hab.eq_iff, (h b a y x hy hx).lt_iff]
    obtain hlt | rfl | hlt := lt_trichotomy x y
    · exact .inl ⟨hlt, hlt.ne, hlt.not_gt⟩
    · exact .inr (.inl ⟨lt_irrefl x, rfl, lt_irrefl x⟩)
    · exact .inr (.inr ⟨hlt.not_gt, hlt.ne', hlt⟩)
  ne := by
    rintro a b ⟨x, hx⟩ ⟨y, hy⟩
    have hab := h a b x y hx hy
    rw [holds_iff hab.ne, hab.eq_iff]
  le := by
    rintro a b ⟨x, hx⟩ ⟨y, hy⟩
    have hab := h a b x y hx hy
    rw [hab.le_iff, hab.lt_iff, hab.eq_iff, le_iff_lt_or_eq]
  gt := by
    rintro a b ⟨x, hx⟩ ⟨y, hy⟩
    have hab := h a b x y hx hy
    rw [holds_iff hab.gt, hab.le_iff, not_le]
  ge := by
    rintro a b ⟨x, hx⟩ ⟨y, hy⟩
    have hab := h a b x y hx hy
    rw [holds_iff hab.ge, hab.lt_iff, not_lt]
  eq_refl := by
    rintro a ⟨x, hx⟩
    rw [(h a a x x hx hx).eq_iff]
  eq_symm := by
    rintro a b ⟨x, hx⟩ ⟨y, hy⟩
    rw [(h a b x y hx hy).eq_iff, (h b a y x hy hx).eq_iff]
    exact Eq.symm
  eq_trans := by
    rintro a b c ⟨x, hx⟩ ⟨y, hy⟩ ⟨z, hz⟩
    rw [(h a b x y hx hy).eq_iff, (h b c y z hy hz).eq_iff, (h a c x z hx hz).eq_iff]
    exact Eq.trans
  lt_trans := by
    rintro a b c ⟨x, hx⟩ ⟨y, hy⟩ ⟨z, hz⟩
    rw [(h a b x y hx hy).lt_iff, (h b c y z hy hz).lt_iff, (h a c x z hx hz).lt_iff]
    exact lt_trans
  lt_congr := by
    rintro a b c ⟨x, hx⟩ ⟨y, hy⟩ ⟨z, hz⟩
    rw [(h a b x y hx hy).eq_iff, (h a c x z hx hz).lt_iff, (h b c y z hy hz).lt_iff,
      (h c a z x hz hx).lt_iff, (h c b z y hz hy).lt_iff]
    rintro rfl
    exact ⟨Iff.rfl, Iff.rfl⟩

end Order

/-!
Values that cannot be compared.
-/

theorem exists_of_bool_eq_ok {x : Except Value.CompareError Bool} {v : Value}
    (h : bool x = .ok v) : ∃ t, x = .ok t := by
  cases x with
  | ok t => exact ⟨t, rfl⟩
  | error e => cases h

theorem fails_of_not_ok (h : ∀ v, f.apply [a, b] ≠ .ok v) : Fails f a b := by
  cases hf : f.apply [a, b] with
  | ok v => exact absurd hf (h v)
  | error e => exact ⟨e, hf⟩

theorem fails_of_not_orderable (h : ¬ Value.Orderable a b) :
    ∀ f ∈ [Builtin.lt, .le, .gt, .ge], Fails f a b := by
  intro f hf
  apply fails_of_not_ok
  intro v hv
  simp only [List.mem_cons, List.not_mem_nil, or_false] at hf
  obtain rfl | rfl | rfl | rfl := hf
  all_goals obtain ⟨t, ht⟩ := exists_of_bool_eq_ok hv
  · exact h (Value.orderable_of_lt ht)
  · exact h (Value.orderable_of_le ht)
  · exact h (Value.orderable_of_gt ht)
  · exact h (Value.orderable_of_ge ht)

theorem fails_of_not_comparable (h : ¬ Value.Comparable a b) :
    ∀ f ∈ [Builtin.eq, .ne], Fails f a b := by
  intro f hf
  apply fails_of_not_ok
  intro v hv
  simp only [List.mem_cons, List.not_mem_nil, or_false] at hf
  obtain rfl | rfl := hf
  all_goals obtain ⟨t, ht⟩ := exists_of_bool_eq_ok hv
  · exact h (Value.comparable_of_eq ht)
  · obtain ⟨s, hs, -⟩ := map_eq_ok ht
    exact h (Value.comparable_of_eq hs)

/-- Numbers are ordered totally by their exact values, and texts by their code points. Values that
are not both numbers or both texts have no order, and values of different kinds are not even told
apart. -/
theorem comparisons_ordered :
    FollowsOrder Value.exactValue? ∧ FollowsOrder Value.codes? ∧
      OrdersTotally (fun v => ∃ x, v.exactValue? = some x) ∧
      OrdersTotally (fun v => ∃ x, v.codes? = some x) ∧
      (∀ a b, ¬ Value.Orderable a b → ∀ f ∈ [Builtin.lt, .le, .gt, .ge], Fails f a b) ∧
      ∀ a b, ¬ Value.Comparable a b → ∀ f ∈ [Builtin.eq, .ne], Fails f a b := by
  have hnumber := followsOrder Value.comparesBy_exact
  have htext := followsOrder Value.comparesBy_codes
  refine ⟨hnumber, htext, hnumber.ordersTotally, htext.ordersTotally, ?_, ?_⟩
  · intro a b h
    exact fails_of_not_orderable h
  · intro a b h
    exact fails_of_not_comparable h

/-- An integer that no number with a fraction is equal to lies between two of them, one infinite. A
truth value is no integer. -/
theorem comparisons_ordered_mixed :
    Holds .lt (.float (.finite false 4503599627370496 1)) (.int 9007199254740993) ∧
      Holds .lt (.float (.finite false 4503599627370496 1)) (.float (.infinite false)) ∧
      Holds .lt (.text "ab") (.text "a\u00e9") ∧
      (∀ f ∈ [Builtin.lt, .le, .gt, .ge], Fails f (.bool true) (.int 1)) ∧
      ∀ f ∈ [Builtin.eq, .ne], Fails f (.bool true) (.int 1) := by
  obtain ⟨hnumber, htext, horder, -, hlt, heq⟩ := comparisons_ordered
  have hcompare : ¬ Value.Comparable (.bool true) (.int 1) := by
    rintro ⟨k, ⟨⟩, ⟨⟩⟩
  have hfirst : Holds .lt (.float (.finite false 4503599627370496 1)) (.int 9007199254740993) :=
    (hnumber _ _ _ _ rfl rfl).lt_iff.mpr (by norm_num)
  have hsecond : Holds .lt (.int 9007199254740993) (.float (.infinite false)) :=
    (hnumber _ _ _ _ rfl rfl).lt_iff.mpr (by norm_num)
  refine ⟨hfirst, horder.lt_trans ⟨_, rfl⟩ ⟨_, rfl⟩ ⟨_, rfl⟩ hfirst hsecond, ?_, ?_, ?_⟩
  · exact (htext _ _ _ _ rfl rfl).lt_iff.mpr (by decide)
  · exact hlt _ _ fun ⟨k, _, h⟩ => hcompare ⟨k, h⟩
  · exact heq _ _ hcompare

end AlertRelay.Template
