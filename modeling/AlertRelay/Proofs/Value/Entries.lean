import AlertRelay.Value.Basic
import Mathlib.Data.List.Nodup
import Mathlib.Data.String.Basic

/-!
Entries of maps: looking a key up, and sorting by key. If no key is given twice, neither depends on
the order of the entries.
-/

namespace AlertRelay.Value

variable {α : Type} {k : String} {es fs : List (String × α)}

theorem find?_cons (e : String × α) :
    find? k (e :: es) = if e.1 = k then some e.2 else find? k es := by
  unfold find?
  by_cases h : e.1 = k <;> simp [h]

theorem mem_of_find? {a : α} (h : find? k es = some a) : (k, a) ∈ es := by
  obtain ⟨⟨k', a'⟩, he, rfl⟩ := Option.map_eq_some_iff.mp h
  have hk : k' = k := by simpa using List.find?_some he
  subst hk
  exact List.mem_of_find?_eq_some he

theorem insertSorted_perm (e : String × α) (es : List (String × α)) :
    (insertSorted e es).Perm (e :: es) := by
  induction es with
  | nil => exact .refl _
  | cons x es ih =>
    unfold insertSorted
    split
    · exact (ih.cons x).trans (.swap e x es)
    · exact .refl _

theorem sortEntries_perm (es : List (String × α)) : (sortEntries es).Perm es := by
  induction es with
  | nil => exact .refl _
  | cons e es ih => exact (insertSorted_perm e _).trans (ih.cons e)

theorem insertSorted_pairwise (e : String × α) (h : es.Pairwise (·.1 ≤ ·.1)) :
    (insertSorted e es).Pairwise (·.1 ≤ ·.1) := by
  induction es with
  | nil => exact List.pairwise_singleton _ _
  | cons x es ih =>
    obtain ⟨hx, hes⟩ := List.pairwise_cons.mp h
    unfold insertSorted
    split
    · next hle =>
      refine List.pairwise_cons.mpr ⟨fun y hy => ?_, ih hes⟩
      rcases List.mem_cons.mp ((insertSorted_perm e es).mem_iff.mp hy) with rfl | hy
      · exact hle
      · exact hx y hy
    · next hle =>
      have he : e.1 ≤ x.1 := (le_total e.1 x.1).resolve_right hle
      refine List.pairwise_cons.mpr ⟨fun y hy => ?_, h⟩
      rcases List.mem_cons.mp hy with rfl | hy
      · exact he
      · exact he.trans (hx y hy)

theorem sortEntries_pairwise (es : List (String × α)) :
    (sortEntries es).Pairwise (·.1 ≤ ·.1) := by
  induction es with
  | nil => exact .nil
  | cons e es ih => exact insertSorted_pairwise e ih

/-- Entries of one key are one entry, if no key is given twice. -/
theorem eq_of_key_eq (hn : (es.map Prod.fst).Nodup) {e f : String × α} (he : e ∈ es) (hf : f ∈ es)
    (h : e.1 = f.1) : e = f :=
  List.inj_on_of_nodup_map hn he hf h

theorem sortEntries_eq_of_perm (hn : (es.map Prod.fst).Nodup) (h : es.Perm fs) :
    sortEntries es = sortEntries fs := by
  have hes := sortEntries_perm es
  have hfs := (sortEntries_perm fs).trans h.symm
  apply @List.Perm.eq_of_pairwise _ (fun e f => e.1 ≤ f.1)
  · intro e f he hf hef hfe
    exact eq_of_key_eq hn (hes.mem_iff.mp he) (hfs.mem_iff.mp hf) (le_antisymm hef hfe)
  · exact sortEntries_pairwise es
  · exact sortEntries_pairwise fs
  · exact hes.trans hfs.symm

theorem find?_eq_some_iff (hn : (es.map Prod.fst).Nodup) {a : α} :
    find? k es = some a ↔ (k, a) ∈ es := by
  refine ⟨mem_of_find?, fun ha => ?_⟩
  cases hf : find? k es with
  | some b => rw [(Prod.mk.inj (eq_of_key_eq hn (mem_of_find? hf) ha rfl)).2]
  | none =>
    have hnone := List.find?_eq_none.mp (Option.map_eq_none_iff.mp hf) _ ha
    simp at hnone

theorem find?_eq_of_perm (hn : (es.map Prod.fst).Nodup) (h : es.Perm fs) :
    find? k es = find? k fs := by
  have hn' : (fs.map Prod.fst).Nodup := (h.map Prod.fst).nodup_iff.mp hn
  ext a
  rw [find?_eq_some_iff hn, find?_eq_some_iff hn', h.mem_iff]

end AlertRelay.Value
