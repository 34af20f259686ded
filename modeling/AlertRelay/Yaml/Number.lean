import AlertRelay.Number.Reading
import AlertRelay.Text.Blank
import AlertRelay.Text.Digit
import AlertRelay.Text.Hex
import AlertRelay.Text.Lower
import AlertRelay.Text.Split
import AlertRelay.Yaml.Error

namespace AlertRelay.Yaml

open AlertRelay.Number AlertRelay.Text

def plainDigits (cs : List Char) : List Char :=
  cs.map fun c =>
    match digitValue? c with
    | some v => Char.ofNat (48 + v)
    | none => c

def baseLetter? (base : Nat) : Option Char := [(2, 'b'), (8, 'o'), (16, 'x')].lookup base

def dropBase (base : Nat) : List Char → List Char
  | '0' :: c :: r => if baseLetter? base == some c.toLower then r else '0' :: c :: r
  | cs => cs

def isDigitIn (base : Nat) (c : Char) : Bool := isHex c && hexValue c < base

def integerOf (base : Nat) (cs : List Char) : Except Error Int :=
  let (negative, r) := Double.takeSign (trimBy isWhiteSpace (plainDigits cs))
  let r := dropBase base r
  let ds := r.takeWhile (isDigitIn base)
  if base == 10 && digitLimit < ds.length then .error (.limit (.reading ds.length))
  else if ds.isEmpty || ds.length < r.length then .error (.badInteger base cs)
  else
    let n := Int.ofNat (ds.foldl (fun k c => base * k + hexValue c) 0)
    .ok (if negative then -n else n)

def floatOf (cs : List Char) : Except Error Double :=
  match Double.ofText? (trimBy isWhiteSpace (plainDigits cs)) with
  | some x => .ok x
  | none => .error (.badFloat cs)

def dropUnderscores (cs : List Char) : List Char := cs.filter (· != '_')

def unsignedText : List Char → Except Error (Bool × List Char)
  | [] => .error .emptyNumber
  | c :: r => .ok (c == '-', if c == '-' || c == '+' then r else c :: r)

def sixtieths (cs : List Char) : List (List Char) := splitAt ':' cs

def readInteger (cs : List Char) : Except Error Int := do
  let (negative, r) ← unsignedText (dropUnderscores cs)
  let n ←
    match r with
    | ['0'] => pure 0
    | '0' :: 'b' :: ds => integerOf 2 ds
    | '0' :: 'x' :: ds => integerOf 16 ds
    | '0' :: _ => integerOf 8 r
    | [] => throw .emptyNumber
    | r =>
      if r.contains ':' then do
        let ns ← (sixtieths r).mapM (integerOf 10)
        pure (ns.foldl (fun k n => 60 * k + n) 0)
      else integerOf 10 r
  return if negative then -n else n

/-- Adds up parts in base sixty from the last one on. Each power of sixty is rounded before it is
used. -/
def sumSixtieths (power : Nat) (sum : Double) : List Double → Except Error Double
  | [] => .ok sum
  | x :: rest =>
    match Double.ofInt? power with
    | some p => sumSixtieths (60 * power) (sum.add (x.mul p)) rest
    | none => .error .powerTooLarge

def readFloat (cs : List Char) : Except Error Double := do
  let (negative, r) ← unsignedText (lowerChars (dropUnderscores cs))
  let x ←
    if r == ".inf".toList then pure (Double.infinite false)
    else if r == ".nan".toList then return .nan
    else if r.contains ':' then do
      let xs ← (sixtieths r).mapM floatOf
      sumSixtieths 1 (Double.zero false) xs.reverse
    else floatOf r
  return if negative then x.neg else x

def readTruth (cs : List Char) : Except Error Bool :=
  let word := lowerChars cs
  if ["yes", "true", "on"].contains (String.ofList word) then .ok true
  else if ["no", "false", "off"].contains (String.ofList word) then .ok false
  else .error (.badTruth word)

end AlertRelay.Yaml
