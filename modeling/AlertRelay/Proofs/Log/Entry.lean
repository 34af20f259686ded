import AlertRelay.Log.Entry

/-!
The values that a log entry holds under a name, and the event that it is about.
-/

namespace AlertRelay.Log

theorem lookup_cons_eq (f : String × Value) (rest : Fields) (name : String) :
    ((f :: rest : Fields).lookup name) = if name = f.1 then some f.2 else rest.lookup name := by
  obtain ⟨k, v⟩ := f
  rw [List.lookup_cons]
  by_cases h : name = k
  · simp [h]
  · rw [if_neg h, beq_false_of_ne h]

theorem lookup_put_self (fields : Fields) (name : String) (v : Value) :
    (put fields name v).lookup name = some v := by
  induction fields with
  | nil => rw [put, lookup_cons_eq, if_pos rfl]
  | cons f rest ih =>
    unfold put
    by_cases h : f.1 = name
    · rw [if_pos (beq_iff_eq.mpr h), lookup_cons_eq, if_pos rfl]
    · rw [if_neg (by simpa using h), lookup_cons_eq, if_neg (Ne.symm h)]
      exact ih

theorem lookup_put_of_ne {name other : String} (h : other ≠ name) (fields : Fields) (v : Value) :
    (put fields name v).lookup other = fields.lookup other := by
  induction fields with
  | nil => rw [put, lookup_cons_eq, if_neg h]
  | cons f rest ih =>
    unfold put
    by_cases hf : f.1 = name
    · rw [if_pos (beq_iff_eq.mpr hf), lookup_cons_eq, lookup_cons_eq, hf, if_neg h, if_neg h]
    · rw [if_neg (by simpa using hf), lookup_cons_eq, lookup_cons_eq, ih]

/-- Whether an entry tells of an event. -/
def Entry.isAbout (event : String) (e : Entry) : Bool :=
  match e.fields.lookup "event" with
  | some (.text s) => s == event
  | _ => false

end AlertRelay.Log
