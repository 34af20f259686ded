import AlertRelay.Number.Decimal
import AlertRelay.Number.Double

namespace AlertRelay.Number.Double

def isDecimalDigit (c : Char) : Bool := '0' ≤ c && c ≤ '9'

def takeSign : List Char → Bool × List Char
  | '-' :: r => (true, r)
  | '+' :: r => (false, r)
  | r => (false, r)

def exponent? : List Char → Option Int
  | [] => some 0
  | c :: r =>
    if c == 'e' || c == 'E' then
      let (s, ds) := takeSign r
      if ds.isEmpty || !ds.all isDecimalDigit then none
      else some (if s then -Int.ofNat (natOfDigits ds) else Int.ofNat (natOfDigits ds))
    else none

/-- Digits with an optional point among them, and an optional exponent. -/
def unsigned? (negative : Bool) (cs : List Char) : Option Double :=
  let whole := cs.takeWhile isDecimalDigit
  let (fraction, tail) :=
    match cs.dropWhile isDecimalDigit with
    | '.' :: r => (r.takeWhile isDecimalDigit, r.dropWhile isDecimalDigit)
    | r => ([], r)
  if whole.isEmpty && fraction.isEmpty then none
  else (exponent? tail).map fun e =>
    ofDecimal negative (natOfDigits (whole ++ fraction)) (e - fraction.length)

def ofText? (cs : List Char) : Option Double :=
  let (s, r) := takeSign cs
  let word := r.map Char.toLower
  if word == "inf".toList || word == "infinity".toList then some (.infinite s)
  else if word == "nan".toList then some .nan
  else unsigned? s r

end AlertRelay.Number.Double
