import AlertRelay.Proofs.Number.Digits
import AlertRelay.Proofs.Value.Entries
import AlertRelay.Value.Printer

/-!
The integers within a value, at any depth. A value has a text unless one of them has too many
digits.
-/

namespace AlertRelay.Value

open AlertRelay.Number

mutual

def integers : Value → List Int
  | .int n => [n]
  | .list items => integersOfItems items
  | .map entries => integersOfEntries entries
  | .record _ _ _ fields _ => integersOfEntries fields
  | _ => []

def integersOfItems : List Value → List Int
  | [] => []
  | v :: rest => v.integers ++ integersOfItems rest

def integersOfEntries : List (String × Value) → List Int
  | [] => []
  | (_, v) :: rest => v.integers ++ integersOfEntries rest

end

/-- An integer within the value has more digits than can be written. -/
def HoldsLongInteger (v : Value) : Prop :=
  ∃ n ∈ v.integers, digitLimit < (natDigits n.natAbs).length

/-- All integers within the value can be written. -/
def Short (v : Value) : Prop := ∀ n ∈ v.integers, n.natAbs < limitBound

theorem short_iff {v : Value} : v.Short ↔ ¬ v.HoldsLongInteger := by
  have hlength (n : Int) : (natDigits n.natAbs).length ≤ digitLimit ↔ n.natAbs < limitBound :=
    length_natDigits_le_iff n.natAbs (by decide)
  unfold Short HoldsLongInteger
  simp only [← hlength, not_exists, not_and, not_lt]

theorem short_of_integers_eq_nil {v : Value} (h : v.integers = []) : v.Short := by
  intro n hn
  rw [h] at hn
  cases hn

theorem mem_integersOfItems {n : Int} {vs : List Value} :
    n ∈ integersOfItems vs ↔ ∃ v ∈ vs, n ∈ v.integers := by
  induction vs with
  | nil => simp [integersOfItems]
  | cons v vs ih => simp [integersOfItems, ih]

theorem mem_integersOfEntries {n : Int} {es : List (String × Value)} :
    n ∈ integersOfEntries es ↔ ∃ e ∈ es, n ∈ e.2.integers := by
  induction es with
  | nil => simp [integersOfEntries]
  | cons e es ih => simp [integersOfEntries, ih]

theorem short_list {vs : List Value} : (Value.list vs).Short ↔ ∀ v ∈ vs, v.Short := by
  unfold Short
  rw [integers]
  simp only [mem_integersOfItems]
  exact ⟨fun h v hv n hn => h n ⟨v, hv, hn⟩, fun h n ⟨v, hv, hn⟩ => h v hv n hn⟩

theorem short_map {es : List (String × Value)} : (Value.map es).Short ↔ ∀ e ∈ es, e.2.Short := by
  unfold Short
  rw [integers]
  simp only [mem_integersOfEntries]
  exact ⟨fun h e he n hn => h n ⟨e, he, hn⟩, fun h n ⟨e, he, hn⟩ => h e he n hn⟩

theorem short_record {id name task : String} {es : List (String × Value)}
    {tags : List (String × String)} :
    (Value.record id name task es tags).Short ↔ (Value.map es).Short := by
  unfold Short
  rw [integers, integers]

theorem short_find? {k : String} {es : List (String × Value)} (h : (Value.map es).Short) :
    ((find? k es).getD .missing).Short := by
  cases hf : find? k es with
  | none => exact short_of_integers_eq_nil rfl
  | some v => exact short_map.mp h (k, v) (mem_of_find? hf)

/-!
Printing.
-/

/-- A result that is there exactly if a condition holds; else something could not be written. -/
def Writes {α : Type} (P : Prop) (x : Except LimitError α) : Prop :=
  P ∧ (∃ a, x = .ok a) ∨ ¬ P ∧ x = .error .writing

section Writes

variable {α β : Type} {P Q : Prop} {x : Except LimitError α} {f : α → Except LimitError β}

theorem writes_ok (a : α) : Writes True (.ok a) := .inl ⟨trivial, a, rfl⟩

theorem Writes.congr (h : Writes P x) (hPQ : P ↔ Q) : Writes Q x := by
  rwa [Writes, ← hPQ]

theorem Writes.bind (hx : Writes P x) (hf : ∀ a, Writes Q (f a)) : Writes (P ∧ Q) (x >>= f) := by
  obtain ⟨hP, a, rfl⟩ | ⟨hP, rfl⟩ := hx
  · obtain ⟨hQ, b, hb⟩ | ⟨hQ, hb⟩ := hf a
    · exact .inl ⟨⟨hP, hQ⟩, b, hb⟩
    · exact .inr ⟨fun h => hQ h.2, hb⟩
  · exact .inr ⟨fun h => hP h.1, rfl⟩

theorem Writes.map (hx : Writes P x) (g : α → β) : Writes P (x >>= fun a => pure (g a)) :=
  (hx.bind fun a => writes_ok (g a)).congr (by rw [and_true])

end Writes

theorem writes_intText (n : Int) : Writes (Value.int n).Short (intText n) := by
  have hshort : (Value.int n).Short ↔ n.natAbs < limitBound := by
    unfold Short
    rw [integers]
    exact List.forall_mem_singleton
  refine Writes.congr ?_ hshort.symm
  unfold intText
  by_cases h : n.natAbs < limitBound
  · rw [if_pos h]
    exact .inl ⟨h, _, rfl⟩
  · rw [if_neg h]
    exact .inr ⟨h, rfl⟩

mutual

/-- A value has a text exactly if its integers have. -/
theorem writes_print (v : Value) : Writes v.Short v.print :=
  match v with
  | .nil | .missing | .bool _ | .float _ | .text _ | .bytes _ | .labels _ =>
    (writes_ok _).congr (iff_of_true trivial (short_of_integers_eq_nil rfl))
  | .int n => by
    rw [print]
    exact writes_intText n
  | .list vs => by
    rw [print]
    exact ((writes_printList vs).map _).congr short_list.symm
  | .map es => by
    rw [print]
    exact ((writes_printEntries es).map _).congr short_map.symm
  | .record _ _ _ es _ => by
    rw [print]
    exact ((writes_printEntries es).map _).congr (short_map.symm.trans short_record.symm)

theorem writes_printList (vs : List Value) : Writes (∀ v ∈ vs, v.Short) (printList vs) :=
  match vs with
  | [] => (writes_ok _).congr (iff_of_true trivial nofun)
  | v :: rest => by
    rw [printList]
    have hrest (t : String) := (writes_printList rest).map (t :: ·)
    exact ((writes_print v).bind hrest).congr List.forall_mem_cons.symm

theorem writes_printEntries (es : List (String × Value)) :
    Writes (∀ e ∈ es, e.2.Short) (printEntries es) :=
  match es with
  | [] => (writes_ok _).congr (iff_of_true trivial nofun)
  | (k, v) :: rest => by
    rw [printEntries]
    have hrest (t : String) := (writes_printEntries rest).map ((k, t) :: ·)
    have hcons : (∀ e ∈ (k, v) :: rest, e.2.Short) ↔ v.Short ∧ ∀ e ∈ rest, e.2.Short :=
      List.forall_mem_cons
    exact ((writes_print v).bind hrest).congr hcons.symm

end

theorem exists_print {v : Value} (h : v.Short) : ∃ s, v.print = .ok s :=
  (writes_print v).elim And.right fun hv => absurd h hv.1

theorem print_of_not_short {v : Value} (h : ¬ v.Short) : v.print = .error .writing :=
  (writes_print v).elim (fun hv => absurd hv.1 h) And.right

theorem eq_writing_of_print {v : Value} {e : LimitError} (h : v.print = .error e) :
    e = .writing := by
  obtain ⟨-, s, hs⟩ | ⟨-, he⟩ := writes_print v
  · rw [hs] at h
    cases h
  · rw [he] at h
    cases h
    rfl

end AlertRelay.Value
