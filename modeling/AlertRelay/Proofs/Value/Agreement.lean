import AlertRelay.Proofs.Value.Entries
import Mathlib.Data.List.Forall2

/-!
Results and entries of maps that go together.
-/

namespace AlertRelay

/-- Two results that go together: errors that do, or values that do. -/
inductive Agrees {ε α : Type} (E : ε → ε → Prop) (R : α → α → Prop) :
    Except ε α → Except ε α → Prop
  | ok {a b} : R a b → Agrees E R (.ok a) (.ok b)
  | error {e f} : E e f → Agrees E R (.error e) (.error f)

theorem Agrees.bind {ε α β : Type} {E : ε → ε → Prop} {R : α → α → Prop} {S : β → β → Prop}
    {x y : Except ε α} {f g : α → Except ε β} (h : Agrees E R x y)
    (hfg : ∀ a b, R a b → Agrees E S (f a) (g b)) : Agrees E S (x >>= f) (y >>= g) := by
  cases h with
  | ok h => exact hfg _ _ h
  | error h => exact .error h

theorem agrees_eq {ε α : Type} {x y : Except ε α} : Agrees Eq Eq x y ↔ x = y := by
  constructor
  · rintro (⟨rfl⟩ | ⟨rfl⟩) <;> rfl
  · rintro rfl
    cases x with
    | ok a => exact .ok rfl
    | error e => exact .error rfl

namespace Value

/-!
Entries of the same keys in the same order, with contents that go together.
-/

/-- Two entries of one key. -/
def SameKey {α : Type} (R : α → α → Prop) (e f : String × α) : Prop := e.1 = f.1 ∧ R e.2 f.2

variable {α : Type} {R : α → α → Prop} {k : String} {es fs : List (String × α)}

theorem rel_find? (h : List.Forall₂ (SameKey R) es fs) :
    Option.Rel R (find? k es) (find? k fs) := by
  induction h with
  | nil => exact .none
  | @cons e f es fs he _ ih =>
    rw [find?_cons, find?_cons, he.1]
    split
    · exact .some he.2
    · exact ih

theorem forall₂_insertSorted {e f : String × α} (he : SameKey R e f)
    (h : List.Forall₂ (SameKey R) es fs) :
    List.Forall₂ (SameKey R) (insertSorted e es) (insertSorted f fs) := by
  induction h with
  | nil => exact .cons he .nil
  | @cons x y es fs hx hxs ih =>
    unfold insertSorted
    rw [he.1, hx.1]
    split
    · exact .cons hx ih
    · exact .cons he (.cons hx hxs)

theorem forall₂_sortEntries (h : List.Forall₂ (SameKey R) es fs) :
    List.Forall₂ (SameKey R) (sortEntries es) (sortEntries fs) := by
  induction h with
  | nil => exact .nil
  | cons he _ ih => exact forall₂_insertSorted he ih

end Value

end AlertRelay
