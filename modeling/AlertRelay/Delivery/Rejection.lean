import AlertRelay.Json.Reader

namespace AlertRelay.Delivery

open AlertRelay.Text

def complaint? (body : String) : Option String :=
  match Json.read? (body.toList.dropWhile isSpacing) with
  | some (tree, _) =>
    match tree.member? "error" with
    | some (.text s) => if s.isEmpty then none else some (String.ofList s)
    | _ => none
  | none => none

/-- The complaint, or else the whole answer. -/
def rejectionMessage (status : Nat) (body : String) : String :=
  match complaint? body with
  | some s => s
  | none =>
    "failed to understand ServiceNow response. code: " ++ toString status ++ " content: " ++ body

end AlertRelay.Delivery
