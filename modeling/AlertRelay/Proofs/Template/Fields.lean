import AlertRelay.Template.Run

/-!
The fields of the record that describes an alert. A name is that of a field for every record, or
for none.
-/

namespace AlertRelay

inductive Record.Field where
  | id | name | task | fields | tags
  deriving DecidableEq

namespace Record.Field

/-- What a template calls the field. -/
def key : Field → String
  | .id => "ID"
  | .name => "Name"
  | .task => "TaskName"
  | .fields => "Fields"
  | .tags => "Tags"

def value (r : Record) : Field → Value
  | .id => .text r.id
  | .name => .text r.name
  | .task => .text r.task
  | .fields => .map r.fields
  | .tags => .labels r.tags

end Record.Field

namespace Template

theorem fieldOf_key (r : Record) (G : Record.Field) :
    fieldOf r.toValue G.key = .ok (G.value r) := by
  cases G <;> rfl

theorem fieldOf_of_ne_key {name : String} (h : ∀ G : Record.Field, name ≠ G.key) (r : Record) :
    fieldOf r.toValue name = .error (.noField name r.toValue.typeName) := by
  have hid : name ≠ "ID" := h .id
  have hname : name ≠ "Name" := h .name
  have htask : name ≠ "TaskName" := h .task
  have hfields : name ≠ "Fields" := h .fields
  have htags : name ≠ "Tags" := h .tags
  simp [fieldOf, Record.toValue, hid, hname, htask, hfields, htags]

theorem fieldOf_record (name : String) :
    (∃ G : Record.Field, name = G.key ∧ ∀ r : Record, fieldOf r.toValue name = .ok (G.value r)) ∨
      ∀ r : Record, fieldOf r.toValue name = .error (.noField name r.toValue.typeName) := by
  by_cases h : ∃ G : Record.Field, name = G.key
  · obtain ⟨G, rfl⟩ := h
    exact .inl ⟨G, rfl, fun r => fieldOf_key r G⟩
  · exact .inr fun r => fieldOf_of_ne_key (fun G hG => h ⟨G, hG⟩) r

end Template

end AlertRelay
