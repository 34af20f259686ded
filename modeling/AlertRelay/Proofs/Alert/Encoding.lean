import AlertRelay.Alert.Payload

/-!
The body of an event. Texts hold characters only, so that each event has a body.
-/

namespace AlertRelay.Alert

open AlertRelay.Text

theorem charsOf?_toNat (cs : List Char) : charsOf? (cs.map Char.toNat) = some cs := by
  induction cs with
  | nil => rfl
  | cons c cs ih =>
    have hv : c.toNat.isValidChar := c.valid
    rw [List.map_cons, charsOf?, if_pos hv, ih, Char.ofNat_toNat]
    rfl

theorem mapM_charsOf? (fields : List (String × String)) :
    ((fields.map fun f => (f.1, f.2.toList.map Char.toNat)).mapM
        fun f => (charsOf? f.2).map fun cs => (f.1, cs)) =
      some (fields.map fun f => (f.1, f.2.toList)) := by
  induction fields with
  | nil => rfl
  | cons f fields ih =>
    rw [List.map_cons, List.mapM_cons, charsOf?_toNat, ih]
    rfl

namespace Payload

/-- The object of the fields of an event, in UTF-8. -/
def body (p : Payload) : List Nat :=
  Utf8.encode (objectText (p.fields.map fun f => (f.1, f.2.toList)))

theorem encode_eq (p : Payload) : p.encode = .ok p.body := by
  unfold encode encodeFields
  rw [mapM_charsOf?]
  rfl

end Payload

end AlertRelay.Alert
