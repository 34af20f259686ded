import AlertRelay.Number.Double

namespace AlertRelay.Number

inductive Quantity where
  | whole (n : Int)
  | double (x : Double)
  deriving DecidableEq, Repr

namespace Quantity

/-- Where a number stands: a value `n * 2 ^ e`, beyond all values on one side, or nowhere. -/
inductive Place where
  | nowhere
  | below
  | above
  | value (n : Int) (e : Int)
  deriving DecidableEq, Repr

def place : Quantity → Place
  | .whole n => .value n 0
  | .double .nan => .nowhere
  | .double (.infinite s) => if s then .below else .above
  | .double (.finite s m e) => .value (Double.significand s m) e

def common (n e m f : Int) : Int × Int :=
  let g := min e f
  (n * Int.ofNat (powTwo (e - g).toNat), m * Int.ofNat (powTwo (f - g).toNat))

def Place.lt : Place → Place → Bool
  | .nowhere, _ | _, .nowhere => false
  | .below, .below => false
  | .below, _ => true
  | _, .below => false
  | .above, _ => false
  | .value _ _, .above => true
  | .value n e, .value m f => (common n e m f).1 < (common n e m f).2

def Place.eq : Place → Place → Bool
  | .below, .below => true
  | .above, .above => true
  | .value n e, .value m f => (common n e m f).1 == (common n e m f).2
  | _, _ => false

def lt (a b : Quantity) : Bool := a.place.lt b.place

/-- Equality of value. What is not a number equals nothing. -/
def eq (a b : Quantity) : Bool := a.place.eq b.place

end Quantity

end AlertRelay.Number
