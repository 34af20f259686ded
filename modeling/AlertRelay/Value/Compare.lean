import AlertRelay.Number.Order
import AlertRelay.Value.Basic

namespace AlertRelay.Value

open AlertRelay.Number

inductive Kind where
  | bool
  | number
  | text
  | nil
  deriving DecidableEq, Repr

def Kind.name : Kind → String
  | .bool => "bool"
  | .number => "number"
  | .text => "string"
  | .nil => "nil"

inductive CompareError where
  | noKind (typeName : String)
  | differentKinds
  | noOrder (kind : Kind)
  | nothingToCompare
  deriving DecidableEq, Repr

def CompareError.message : CompareError → String
  | .noKind t => "invalid type for comparison: " ++ t
  | .differentKinds => "incompatible types for comparison"
  | .noOrder k => "invalid type for comparison: " ++ k.name
  | .nothingToCompare => "missing argument for comparison"

def kind? : Value → Option Kind
  | .bool _ => some .bool
  | .int _ => some .number
  | .float _ => some .number
  | .text _ => some .text
  | .nil => some .nil
  | .missing => some .nil
  | _ => none

def kind (v : Value) : Except CompareError Kind :=
  match v.kind? with
  | some k => .ok k
  | none => .error (.noKind v.typeName)

def quantity? : Value → Option Quantity
  | .int n => some (.whole n)
  | .float x => some (.double x)
  | _ => none

/-- Equality of two values of one kind. An absent value does not equal an empty one. -/
def same : Value → Value → Bool
  | .bool a, .bool b => a == b
  | .text a, .text b => a == b
  | .nil, .nil => true
  | .missing, .missing => true
  | a, b =>
    match a.quantity?, b.quantity? with
    | some x, some y => x.eq y
    | _, _ => false

def before : Value → Value → Bool
  | .text a, .text b => decide (a < b)
  | a, b =>
    match a.quantity?, b.quantity? with
    | some x, some y => x.lt y
    | _, _ => false

def eqAny (k : Kind) (first : Value) : List Value → Except CompareError Bool
  | [] => .ok false
  | v :: rest => do
    if (← v.kind) ≠ k then .error .differentKinds
    else if first.same v then .ok true
    else eqAny k first rest

def eq (first : Value) (others : List Value) : Except CompareError Bool :=
  if others.isEmpty then .error .nothingToCompare
  else do eqAny (← first.kind) first others

def lt (a b : Value) : Except CompareError Bool := do
  let k ← a.kind
  if (← b.kind) ≠ k then .error .differentKinds
  else match k with
    | .bool | .nil => .error (.noOrder k)
    | .number | .text => .ok (before a b)

def le (a b : Value) : Except CompareError Bool := do
  if ← lt a b then .ok true else eq a [b]

def gt (a b : Value) : Except CompareError Bool := do return !(← le a b)

def ge (a b : Value) : Except CompareError Bool := do return !(← lt a b)

end AlertRelay.Value
