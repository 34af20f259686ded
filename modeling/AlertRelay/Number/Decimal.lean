import AlertRelay.Number.Power

namespace AlertRelay.Number

/-- The most digits that an integer may have in a text. -/
def digitLimit : Nat := 4300

def limitBound : Nat := powTen digitLimit

inductive LimitError where
  | writing
  | reading (digits : Nat)
  deriving DecidableEq, Repr

def LimitError.message : LimitError → String
  | .writing =>
    "Exceeds the limit (4300 digits) for integer string conversion; " ++
      "use sys.set_int_max_str_digits() to increase the limit"
  | .reading n =>
    "Exceeds the limit (4300 digits) for integer string conversion: value has " ++
      toString n ++ " digits; use sys.set_int_max_str_digits() to increase the limit"

def natDigits (n : Nat) : List Char := Nat.toDigits 10 n

def intDigits (n : Int) : List Char :=
  if n < 0 then '-' :: natDigits n.natAbs else natDigits n.natAbs

def intText (n : Int) : Except LimitError String :=
  if n.natAbs < limitBound then .ok (String.ofList (intDigits n)) else .error .writing

def natOfDigits (cs : List Char) : Nat :=
  cs.foldl (fun n c => 10 * n + (c.toNat - 48)) 0

end AlertRelay.Number
