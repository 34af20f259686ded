import AlertRelay.Proofs.Number.Exact
import AlertRelay.Proofs.Result
import AlertRelay.Value.Compare
import Mathlib.Data.Char
import Mathlib.Data.List.Lex

/-!
Comparing two values. Whether they can be compared depends on their kinds; the answer is that of the
order of numbers by exact value, or of texts by code point.
-/

namespace AlertRelay.Value

open AlertRelay.Number

variable {a b : Value} {k : Kind}

/-- The kinds of the values that can be compared. -/
inductive OfKind : Kind → Value → Prop
  | truth {t : Bool} : OfKind .bool (.bool t)
  | whole {n : Int} : OfKind .number (.int n)
  | fraction {x : Double} : OfKind .number (.float x)
  | text {s : String} : OfKind .text (.text s)
  | nil : OfKind .nil .nil
  | missing : OfKind .nil .missing

/-- The kinds that have an order. -/
def Kind.IsOrdered (k : Kind) : Prop := k = .number ∨ k = .text

/-- Two values that can be told equal or not. -/
def Comparable (a b : Value) : Prop := ∃ k, OfKind k a ∧ OfKind k b

/-- Two values of which one can come before the other. -/
def Orderable (a b : Value) : Prop := ∃ k : Kind, k.IsOrdered ∧ OfKind k a ∧ OfKind k b

theorem kind_eq_ok_iff : a.kind = .ok k ↔ OfKind k a := by
  constructor
  · intro h
    cases a with
    | nil => cases h; exact .nil
    | missing => cases h; exact .missing
    | bool => cases h; exact .truth
    | int => cases h; exact .whole
    | float => cases h; exact .fraction
    | text => cases h; exact .text
    | bytes | list | map | labels | record => cases h
  · intro h
    cases h with
    | truth | whole | fraction | text | nil | missing => rfl

/-!
Comparisons of values that can be compared.
-/

section Comparable

variable (ha : OfKind k a) (hb : OfKind k b)
include ha hb

theorem eq_of_kind : eq a [b] = .ok (a.same b) := by
  rw [← kind_eq_ok_iff] at ha hb
  by_cases h : a.same b <;> simp [eq, eqAny, ha, hb, h, bind, Except.bind]

theorem ne_of_kind : (eq a [b]).map (!·) = .ok !a.same b := by
  rw [eq_of_kind ha hb]
  rfl

variable (hk : k.IsOrdered)
include hk

theorem lt_of_kind : lt a b = .ok (a.before b) := by
  rw [← kind_eq_ok_iff] at ha hb
  obtain rfl | rfl := hk <;> simp [lt, ha, hb, bind, Except.bind]

theorem le_of_kind : le a b = .ok (a.before b || a.same b) := by
  by_cases h : a.before b <;>
    simp [le, lt_of_kind ha hb hk, eq_of_kind ha hb, h, bind, Except.bind]

theorem gt_of_kind : gt a b = .ok !(a.before b || a.same b) := by
  simp [gt, le_of_kind ha hb hk, bind, Except.bind, pure, Except.pure]

theorem ge_of_kind : ge a b = .ok !a.before b := by
  simp [ge, lt_of_kind ha hb hk, bind, Except.bind, pure, Except.pure]

end Comparable

/-!
Comparisons that fail.
-/

theorem comparable_of_eq {r : Bool} (h : eq a [b] = .ok r) : Comparable a b := by
  obtain ⟨k, ha, h⟩ := bind_eq_ok_iff.mp h
  obtain ⟨l, hb, h⟩ := bind_eq_ok_iff.mp h
  by_cases hl : l = k
  · exact ⟨k, kind_eq_ok_iff.mp ha, kind_eq_ok_iff.mp (hl ▸ hb)⟩
  · rw [if_pos hl] at h
    cases h

theorem orderable_of_lt {r : Bool} (h : lt a b = .ok r) : Orderable a b := by
  obtain ⟨k, ha, h⟩ := bind_eq_ok_iff.mp h
  obtain ⟨l, hb, h⟩ := bind_eq_ok_iff.mp h
  by_cases hl : l = k
  · subst hl
    rw [if_neg (by simp)] at h
    cases l with
    | bool | nil => cases h
    | number => exact ⟨_, .inl rfl, kind_eq_ok_iff.mp ha, kind_eq_ok_iff.mp hb⟩
    | text => exact ⟨_, .inr rfl, kind_eq_ok_iff.mp ha, kind_eq_ok_iff.mp hb⟩
  · rw [if_pos hl] at h
    cases h

theorem orderable_of_le {r : Bool} (h : le a b = .ok r) : Orderable a b := by
  obtain ⟨_, hlt, -⟩ := bind_eq_ok_iff.mp h
  exact orderable_of_lt hlt

theorem orderable_of_gt {r : Bool} (h : gt a b = .ok r) : Orderable a b := by
  obtain ⟨_, hle, -⟩ := bind_eq_ok_iff.mp h
  exact orderable_of_le hle

theorem orderable_of_ge {r : Bool} (h : ge a b = .ok r) : Orderable a b := by
  obtain ⟨_, hlt, -⟩ := bind_eq_ok_iff.mp h
  exact orderable_of_lt hlt

/-!
The order of the values of a kind.
-/

/-- The exact value of a number. -/
def exactValue? : Value → Option Extended
  | .int n => some (.ofRat n)
  | .float x => x.exactValue?
  | _ => none

/-- The code points of a text. -/
def codes? : Value → Option (List Nat)
  | .text s => some (s.toList.map Char.toNat)
  | _ => none

/-- Whether values are compared as their ranks are. -/
structure ComparesBy {α : Type} [LinearOrder α] (rank : Value → Option α) : Prop where
  kind : ∃ k : Kind, k.IsOrdered ∧ ∀ a x, rank a = some x → OfKind k a
  before : ∀ {a b x y}, rank a = some x → rank b = some y → (a.before b = true ↔ x < y)
  same : ∀ {a b x y}, rank a = some x → rank b = some y → (a.same b = true ↔ x = y)

theorem ofKind_of_exactValue? {x : Extended} (h : a.exactValue? = some x) : OfKind .number a := by
  cases a with
  | int => exact .whole
  | float => exact .fraction
  | nil | missing | bool | text | bytes | list | map | labels | record => cases h

/-- Two numbers are compared as the quantities that they are. -/
theorem exists_quantities (ha : OfKind .number a) (hb : OfKind .number b) :
    ∃ q r : Quantity, q.exactValue? = a.exactValue? ∧ r.exactValue? = b.exactValue? ∧
      a.before b = q.lt r ∧ a.same b = q.eq r := by
  cases ha with
  | whole | fraction =>
    cases hb with
    | whole | fraction => exact ⟨_, _, rfl, rfl, rfl, rfl⟩

theorem comparesBy_exact : ComparesBy exactValue? := by
  refine ⟨⟨.number, .inl rfl, fun _ _ => ofKind_of_exactValue?⟩, ?_, ?_⟩
  · intro a b x y ha hb
    obtain ⟨q, r, hq, hr, hbefore, -⟩ :=
      exists_quantities (ofKind_of_exactValue? ha) (ofKind_of_exactValue? hb)
    rw [hbefore, Quantity.lt_iff (hq.trans ha) (hr.trans hb)]
  · intro a b x y ha hb
    obtain ⟨q, r, hq, hr, -, hsame⟩ :=
      exists_quantities (ofKind_of_exactValue? ha) (ofKind_of_exactValue? hb)
    rw [hsame, Quantity.eq_iff (hq.trans ha) (hr.trans hb)]

theorem exists_text {x : List Nat} (h : a.codes? = some x) :
    ∃ s, a = .text s ∧ x = s.toList.map Char.toNat := by
  cases a with
  | text s => cases h; exact ⟨s, rfl, rfl⟩
  | nil | missing | bool | int | float | bytes | list | map | labels | record => cases h

theorem lt_iff_codes {s t : String} :
    s < t ↔ s.toList.map Char.toNat < t.toList.map Char.toNat := by
  have hmono : StrictMono (List.map Char.toNat) := fun _ _ => List.map_lt fun _ _ h => h
  rw [String.lt_iff, hmono.lt_iff_lt]

theorem eq_iff_codes {s t : String} :
    s = t ↔ s.toList.map Char.toNat = t.toList.map Char.toNat := by
  have hinj : Function.Injective Char.toNat := fun _ _ => Char.toNat_inj.mp
  rw [hinj.list_map.eq_iff, String.toList_inj]

theorem comparesBy_codes : ComparesBy codes? := by
  refine ⟨⟨.text, .inr rfl, ?_⟩, ?_, ?_⟩
  · intro a x h
    obtain ⟨s, rfl, -⟩ := exists_text h
    exact .text
  · intro a b x y ha hb
    obtain ⟨s, rfl, rfl⟩ := exists_text ha
    obtain ⟨t, rfl, rfl⟩ := exists_text hb
    rw [before, decide_eq_true_iff, lt_iff_codes]
  · intro a b x y ha hb
    obtain ⟨s, rfl, rfl⟩ := exists_text ha
    obtain ⟨t, rfl, rfl⟩ := exists_text hb
    rw [same, beq_iff_eq, eq_iff_codes]

end AlertRelay.Value
