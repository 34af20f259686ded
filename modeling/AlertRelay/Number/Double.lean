import AlertRelay.Number.Power

namespace AlertRelay.Number

/-- A finite number is `mantissa * 2 ^ exponent` with its sign. The mantissa has 53 bits, or fewer
when the exponent is the least one. -/
inductive Double where
  | nan
  | infinite (negative : Bool)
  | finite (negative : Bool) (mantissa : Nat) (exponent : Int)
  deriving DecidableEq, Repr, Inhabited

namespace Double

def leastExponent : Int := -1074

def greatestExponent : Int := 971

def zero (negative : Bool) : Double := .finite negative 0 leastExponent

def scaled (num den : Nat) (e : Int) : Nat × Nat :=
  if 0 ≤ e then (num, den * powTwo e.toNat) else (num * powTwo (-e).toNat, den)

/-- The quotient rounded to the nearest number, a tie to the even one. -/
def roundDiv (num den : Nat) : Nat :=
  let q := num / den
  let r := num % den
  if den < 2 * r || (2 * r == den && q % 2 == 1) then q + 1 else q

/-- The exponent at which `num / den` has a whole part of 53 bits, not below the least one. -/
def exponentFor (num den : Nat) : Int :=
  let e := max leastExponent ((num.log2 : Int) - den.log2 - 53)
  let (n, d) := scaled num den e
  if n / d < powTwo 53 then e else e + 1

def ofRatio (negative : Bool) (num den : Nat) : Double :=
  if num == 0 then zero negative
  else
    let e := exponentFor num den
    let (n, d) := scaled num den e
    let m := roundDiv n d
    let (m, e) := if m == powTwo 53 then (powTwo 52, e + 1) else (m, e)
    if greatestExponent < e then .infinite negative else .finite negative m e

/-- The number nearest to `digits * 10 ^ exponent`. Powers far outside the range are not
computed. -/
def ofDecimal (negative : Bool) (digits : Nat) (exponent : Int) : Double :=
  if digits == 0 then zero negative
  else
    let magnitude := (digits.log2 : Int) * 30103 / 100000 + exponent
    if 400 < magnitude then .infinite negative
    else if magnitude < -400 then zero negative
    else if 0 ≤ exponent then ofRatio negative (digits * powTen exponent.toNat) 1
    else ofRatio negative digits (powTen (-exponent).toNat)

def ofInt? (n : Int) : Option Double :=
  match ofRatio (decide (n < 0)) n.natAbs 1 with
  | .finite s m e => some (.finite s m e)
  | _ => none

def isNegative : Double → Bool
  | .nan => false
  | .infinite s => s
  | .finite s _ _ => s

def neg : Double → Double
  | .nan => .nan
  | .infinite s => .infinite !s
  | .finite s m e => .finite (!s) m e

def toInt? : Double → Option Int
  | .finite s m e =>
    let whole : Option Nat :=
      if 0 ≤ e then some (m * powTwo e.toNat)
      else
        let d := powTwo (-e).toNat
        if m % d == 0 then some (m / d) else none
    whole.map fun n => if s then -Int.ofNat n else Int.ofNat n
  | _ => none

def significand (negative : Bool) (mantissa : Nat) : Int :=
  if negative then -Int.ofNat mantissa else Int.ofNat mantissa

/-- The number nearest to `n * 2 ^ e`. An exact zero takes the sign `zeroSign`. -/
def ofScaled (n : Int) (e : Int) (zeroSign : Bool) : Double :=
  if n == 0 then zero zeroSign
  else if 0 ≤ e then ofRatio (decide (n < 0)) (n.natAbs * powTwo e.toNat) 1
  else ofRatio (decide (n < 0)) n.natAbs (powTwo (-e).toNat)

def add : Double → Double → Double
  | .nan, _ | _, .nan => .nan
  | .infinite s, .infinite t => if s == t then .infinite s else .nan
  | .infinite s, _ | _, .infinite s => .infinite s
  | .finite s m e, .finite t n f =>
    let g := min e f
    let a := significand s m * Int.ofNat (powTwo (e - g).toNat)
    let b := significand t n * Int.ofNat (powTwo (f - g).toNat)
    ofScaled (a + b) g (s && t)

def mul : Double → Double → Double
  | .nan, _ | _, .nan => .nan
  | .infinite s, .infinite t => .infinite (s != t)
  | .infinite s, .finite t n _ | .finite t n _, .infinite s =>
    if n == 0 then .nan else .infinite (s != t)
  | .finite s m e, .finite t n f =>
    ofScaled (significand s m * significand t n) (e + f) (s != t)

end Double

end AlertRelay.Number
