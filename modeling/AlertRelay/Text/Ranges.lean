namespace AlertRelay.Text

/-- A set of numbers: a number belongs to it when an odd count of the bounds, which ascend,
lies at or below that number. -/
structure Ranges where
  bounds : Array Nat

namespace Ranges

/-- How many bounds lie at or below `n`, given that those before `low` do and those from
`high` on do not. -/
def countBelow (r : Ranges) (n low high : Nat) : Nat :=
  if _h : low < high then
    let mid := (low + high) / 2
    if r.bounds.getD mid 0 ≤ n then countBelow r n (mid + 1) high
    else countBelow r n low mid
  else low
termination_by high - low

def contains (r : Ranges) (n : Nat) : Bool :=
  r.countBelow n 0 r.bounds.size % 2 == 1

end Ranges

/-- A map from numbers to numbers that is constant between its ascending starting points: each
start is followed by the value that holds from there on. -/
structure Steps where
  points : Array Nat

namespace Steps

def countBelow (s : Steps) (n low high : Nat) : Nat :=
  if _h : low < high then
    let mid := (low + high) / 2
    if s.points.getD (2 * mid) 0 ≤ n then countBelow s n (mid + 1) high
    else countBelow s n low mid
  else low
termination_by high - low

def lookup (s : Steps) (n : Nat) : Nat :=
  match s.countBelow n 0 (s.points.size / 2) with
  | 0 => 0
  | k + 1 => s.points.getD (2 * k + 1) 0

end Steps

end AlertRelay.Text
