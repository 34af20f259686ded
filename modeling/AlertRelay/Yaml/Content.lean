import AlertRelay.Yaml.Datum
import AlertRelay.Yaml.Lexer

namespace AlertRelay.Yaml

def unusable : Value := .list []

/-- Keeps the entries with a text for a key, the last one for each. -/
def textEntries (entries : List (Option String × Value)) : List (String × Value) :=
  entries.foldr (fun e es =>
    match e.1 with
    | some s => if (Value.find? s es).isSome then es else (s, e.2) :: es
    | none => es) []

def Datum.scalarValue : Datum → Value
  | .value v => v
  | _ => unusable

namespace Data

def membersOf (d : Data) (place : Place) : List Member := d.members.getD place []

def valueOf (d : Data) : Datum → Value
  | .map place => .map (textEntries ((d.membersOf place).map fun m => (m.1, m.2.scalarValue)))
  | x => x.scalarValue

end Data

/-- The top of a document: whether a key of its map is no text, and the entries with a text; no
entries for a document that is no map. -/
structure Content where
  foreignKey : Bool
  entries : List (String × Value)

def Content.empty : Content := ⟨false, []⟩

def Content.ofData (d : Data) : Content :=
  match d.root with
  | .map place =>
    let ms := d.membersOf place
    ⟨ms.any (·.1.isNone), textEntries (ms.map fun m => (m.1, d.valueOf m.2))⟩
  | _ => .empty

def Content.ofText (s : String) : Except Error Content := do
  let document ← Document.ofTokens (tokens s.toList)
  match document.root with
  | none => return .empty
  | some root => return .ofData (← document.data root)

end AlertRelay.Yaml
