import AlertRelay.Proofs.Value.Agreement
import AlertRelay.Proofs.Value.Integers
import AlertRelay.Value.Compare

/-!
Values that are the same but for the order in which their maps were filled. They are printed alike
and compared alike, and what one holds for a key the other holds too.
-/

namespace AlertRelay.Value

open AlertRelay.Number

mutual

/-- The same value, but for the order of entries, at any depth. A map has each key once. -/
inductive Reordered : Value → Value → Prop
  | atom {v} : v.isHashable = true → Reordered v v
  | list {vs ws} : ReorderedItems vs ws → Reordered (.list vs) (.list ws)
  | map {es es' fs} : (es.map Prod.fst).Nodup → es.Perm es' → ReorderedEntries es' fs →
      Reordered (.map es) (.map fs)
  | labels {es fs} : (es.map Prod.fst).Nodup → es.Perm fs → Reordered (.labels es) (.labels fs)
  | record {id name task es es' fs tags tags'} : (es.map Prod.fst).Nodup → es.Perm es' →
      ReorderedEntries es' fs → (tags.map Prod.fst).Nodup → tags.Perm tags' →
      Reordered (.record id name task es tags) (.record id name task fs tags')

inductive ReorderedItems : List Value → List Value → Prop
  | nil : ReorderedItems [] []
  | cons {v w vs ws} : Reordered v w → ReorderedItems vs ws → ReorderedItems (v :: vs) (w :: ws)

/-- Entries of the same keys in the same order. -/
inductive ReorderedEntries : List (String × Value) → List (String × Value) → Prop
  | nil : ReorderedEntries [] []
  | cons {k v w es fs} : Reordered v w → ReorderedEntries es fs →
      ReorderedEntries ((k, v) :: es) ((k, w) :: fs)

end

theorem ReorderedItems.forall₂ {vs ws : List Value} (h : ReorderedItems vs ws) :
    List.Forall₂ Reordered vs ws :=
  match h with
  | .nil => .nil
  | .cons hv hvs => .cons hv hvs.forall₂

theorem ReorderedEntries.forall₂ {es fs : List (String × Value)} (h : ReorderedEntries es fs) :
    List.Forall₂ (SameKey Reordered) es fs :=
  match h with
  | .nil => .nil
  | .cons hv hes => .cons ⟨rfl, hv⟩ hes.forall₂

/-!
Printing.
-/

/-- The text of a value, if it has one. -/
def printed (v : Value) : String := v.print.toOption.getD ""

theorem printEntries_eq (es : List (String × Value)) :
    printEntries es =
      if es.all (·.2.print.isOk) then .ok (es.map fun e => (e.1, e.2.printed))
      else .error .writing := by
  induction es with
  | nil => rfl
  | cons e es ih =>
    obtain ⟨k, v⟩ := e
    rw [printEntries, ih, List.all_cons, List.map_cons]
    cases hv : v.print with
    | error e =>
      obtain rfl := eq_writing_of_print hv
      rfl
    | ok t =>
      have ht : v.printed = t := by rw [printed, hv]; rfl
      have hok : (Except.ok t : Except LimitError String).isOk = true := rfl
      dsimp only
      rw [ht, hok, Bool.true_and]
      split <;> rfl

/-- What a map is printed as does not depend on the order of its entries. -/
theorem map_bracketMap_of_perm {es fs : List (String × Value)} (hn : (es.map Prod.fst).Nodup)
    (h : es.Perm fs) : (printEntries es).map bracketMap = (printEntries fs).map bracketMap := by
  -- Whether all entries have a text is the same in any order, and so are the sorted texts.
  rw [printEntries_eq, printEntries_eq, h.all_eq]
  split
  · have hkeys : ((es.map fun e => (e.1, e.2.printed)).map Prod.fst).Nodup := by
      rwa [List.map_map]
    have hsort := sortEntries_eq_of_perm hkeys (h.map fun e => (e.1, e.2.printed))
    simp only [Except.map, bracketMap, hsort]
  · rfl

theorem print_map (es : List (String × Value)) :
    (Value.map es).print = (printEntries es).map bracketMap := by
  rw [print]
  cases printEntries es <;> rfl

theorem print_record (id name task : String) (es : List (String × Value))
    (tags : List (String × String)) : (Value.record id name task es tags).print =
      ((printEntries es).map bracketMap).map fun fields =>
        "\x7b" ++ " ".intercalate [id, name, task, fields, bracketMap tags] ++ "\x7d" := by
  rw [print]
  cases printEntries es <;> rfl

mutual

theorem Reordered.print_eq {v w : Value} (h : Reordered v w) : v.print = w.print :=
  match h with
  | .atom _ => rfl
  | .list hvs => by rw [print, print, hvs.printList_eq]
  | .map hn hp hes => by
    rw [print_map, print_map, map_bracketMap_of_perm hn hp, hes.printEntries_eq]
  | .labels hn hp => by
    rw [print, print, bracketMap, bracketMap, sortEntries_eq_of_perm hn hp]
  | .record hn hp hes hnt hpt => by
    rw [print_record, print_record, map_bracketMap_of_perm hn hp, hes.printEntries_eq,
      bracketMap, sortEntries_eq_of_perm hnt hpt, bracketMap]

theorem ReorderedItems.printList_eq {vs ws : List Value} (h : ReorderedItems vs ws) :
    printList vs = printList ws :=
  match h with
  | .nil => rfl
  | .cons hv hvs => by rw [printList, printList, hv.print_eq, hvs.printList_eq]

theorem ReorderedEntries.printEntries_eq {es fs : List (String × Value)}
    (h : ReorderedEntries es fs) : printEntries es = printEntries fs :=
  match h with
  | .nil => rfl
  | .cons hv hes => by rw [printEntries, printEntries, hv.print_eq, hes.printEntries_eq]

end

/-!
What else can be seen of a value.
-/

theorem length_entries {es es' fs : List (String × Value)} (hp : es.Perm es')
    (h : ReorderedEntries es' fs) : es.length = fs.length :=
  hp.length_eq.trans h.forall₂.length_eq

theorem isEmpty_eq_of_length_eq {α : Type} {xs ys : List α} (h : xs.length = ys.length) :
    xs.isEmpty = ys.isEmpty := by
  rw [Bool.eq_iff_iff, List.isEmpty_iff_length_eq_zero, List.isEmpty_iff_length_eq_zero, h]

namespace Reordered

variable {v w : Value}

theorem typeName_eq (h : Reordered v w) : v.typeName = w.typeName := by
  cases h <;> rfl

/-- Only what holds other values can differ. -/
theorem eq_or_not_isHashable (h : Reordered v w) :
    v = w ∨ v.isHashable = false ∧ w.isHashable = false := by
  cases h with
  | atom _ => exact .inl rfl
  | list _ | map _ _ _ | labels _ _ | record _ _ _ _ _ => exact .inr ⟨rfl, rfl⟩

theorem truth_eq (h : Reordered v w) : v.truth = w.truth := by
  cases h with
  | atom _ | record _ _ _ _ _ => rfl
  | list hvs => exact congrArg not (isEmpty_eq_of_length_eq hvs.forall₂.length_eq)
  | map _ hp hes => exact congrArg not (isEmpty_eq_of_length_eq (length_entries hp hes))
  | labels _ hp => exact congrArg not (isEmpty_eq_of_length_eq hp.length_eq)

end Reordered

end AlertRelay.Value
