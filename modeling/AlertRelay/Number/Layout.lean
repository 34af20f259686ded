import AlertRelay.Number.Decimal
import AlertRelay.Number.Shortest
import AlertRelay.Text.Pad

namespace AlertRelay.Number.Double

open AlertRelay.Text

def exponentText (e : Int) : List Char :=
  'e' :: (if e < 0 then '-' else '+') :: padLeft 2 '0' (natDigits e.natAbs)

def pointAfterFirst (ds : List Char) : List Char :=
  match ds with
  | d :: r@(_ :: _) => d :: '.' :: r
  | ds => ds

/-- Digits written without an exponent, with at least one place on both sides of the point. -/
def positional (ds : List Char) (point : Int) : List Char :=
  if point ≤ 0 then '0' :: '.' :: List.replicate (-point).toNat '0' ++ ds
  else
    let whole := ds.take point.toNat
    let rest := ds.drop point.toNat
    whole ++ List.replicate (point.toNat - ds.length) '0' ++
      '.' :: (if rest.isEmpty then ['0'] else rest)

/-- The shortest form of a positive number: without an exponent from `0.0001` up to below
`10 ^ 16`. -/
def shortestText (m : Nat) (e : Int) : List Char :=
  let s := shortest m e
  let ds := padLeft s.count '0' (natDigits s.digits)
  if -4 < s.point && s.point ≤ 16 then positional ds s.point
  else pointAfterFirst ds ++ exponentText (s.point - 1)

def minus (negative : Bool) : List Char := if negative then ['-'] else []

def text : Double → String
  | .nan => "nan"
  | .infinite s => if s then "-inf" else "inf"
  | .finite s 0 _ => String.ofList (minus s ++ "0.0".toList)
  | .finite s (m + 1) e => String.ofList (minus s ++ shortestText (m + 1) e)

def roundTens (m : Nat) (e k : Int) : Nat :=
  let (a, b) := if 0 ≤ e then (m * powTwo e.toNat, 1) else (m, powTwo (-e).toNat)
  if 0 ≤ k then roundDiv (a * powTen k.toNat) b else roundDiv a (b * powTen (-k).toNat)

/-- `places` digits after the point, and no point without them. -/
def fixedText (places m : Nat) (e : Int) : List Char :=
  let ds := padLeft (places + 1) '0' (natDigits (roundTens m e places))
  let whole := ds.take (ds.length - places)
  let rest := ds.drop (ds.length - places)
  if rest.isEmpty then whole else whole ++ '.' :: rest

def scientific (places m : Nat) (e : Int) : List Char × Int :=
  if m == 0 then (List.replicate (places + 1) '0', 0)
  else
    let (a, b) := if 0 ≤ e then (m * powTwo e.toNat, 1) else (m, powTwo (-e).toNat)
    let top := magnitude a b
    let d := roundTens m e (places + 1 - top)
    if d == powTen (places + 1) then (natDigits (d / 10), top) else (natDigits d, top - 1)

def scientificText (places m : Nat) (e : Int) : List Char :=
  let (ds, x) := scientific places m e
  pointAfterFirst ds ++ exponentText x

def trimFraction (cs : List Char) : List Char :=
  if cs.contains '.' then
    let kept := (cs.reverse.dropWhile (· == '0')).reverse
    if kept.getLast? == some '.' then kept.dropLast else kept
  else cs

/-- `precision` significant digits, none counting as one, without zeros at the end. An exponent is
written for numbers below `0.0001` and for those with more places before the point than there
are digits. -/
def generalText (precision m : Nat) (e : Int) : List Char :=
  let p := max 1 precision
  let (ds, x) := scientific (p - 1) m e
  if -4 ≤ x && x < p then trimFraction (fixedText (p - 1 - x).toNat m e)
  else trimFraction (pointAfterFirst ds) ++ exponentText x

end AlertRelay.Number.Double
