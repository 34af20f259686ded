namespace AlertRelay.Text.Punycode

def threshold (place bias : Nat) : Nat :=
  let r : Int := 36 * (place + 1) - bias
  if r < 1 then 1 else if 26 < r then 26 else r.toNat

/-- Divides by 35 until at most 455 is left, counting 36 for each time. -/
def halvings (delta divisions : Nat) : Nat × Nat :=
  if _h : 455 < delta then halvings (delta / 35) (divisions + 36) else (delta, divisions)
termination_by delta

def adapt (delta : Nat) (first : Bool) (count : Nat) : Nat :=
  let d := if first then delta / 700 else delta / 2
  let (d, k) := halvings (d + d / count) 0
  k + 36 * d / (d + 38)

def digitChar (n : Nat) : Nat := if n < 26 then 97 + n else 22 + n

def numberDigits (place bias n : Nat) : List Nat :=
  let t := threshold place bias
  if n < t then [digitChar n]
  else if _h : t < 36 ∧ t ≤ n ∧ 0 < n then
    digitChar (t + (n - t) % (36 - t)) :: numberDigits (place + 1) bias ((n - t) / (36 - t))
  else []
termination_by n
decreasing_by
  have ht : 1 ≤ threshold place bias := by
    unfold threshold
    dsimp only
    split <;> (try split) <;> omega
  exact Nat.lt_of_le_of_lt (Nat.div_le_self _ _) (by omega)

structure Encoder where
  delta : Nat
  bias : Nat
  count : Nat
  first : Bool
  out : List Nat

def Encoder.pass (n : Nat) (e : Encoder) (c : Nat) : Encoder :=
  if c < n then { e with delta := e.delta + 1 }
  else if c == n then
    { delta := 0, bias := adapt e.delta e.first (e.count + 1), count := e.count + 1, first := false
      out := (numberDigits 0 e.bias e.delta).reverse ++ e.out }
  else e

def Encoder.write (codes : List Nat) (e : Encoder) (before n : Nat) : Encoder :=
  let e := { e with delta := e.delta + (n - before) * (e.count + 1) }
  let e := codes.foldl (pass n) e
  { e with delta := e.delta + 1 }

def insertOnce (n : Nat) : List Nat → List Nat
  | [] => [n]
  | m :: rest =>
    if n < m then n :: m :: rest else if n == m then m :: rest else m :: insertOnce n rest

/-- Writes code points in turn; `before` is the least number that is not yet passed. -/
def encodeExtra (codes : List Nat) (e : Encoder) (before : Nat) : List Nat → Encoder
  | [] => e
  | n :: rest => encodeExtra codes (e.write codes before n) (n + 1) rest

def encode (codes : List Nat) : List Nat :=
  let plain := codes.filter (· < 0x80)
  let extra := (codes.filter (0x80 ≤ ·)).foldl (fun acc n => insertOnce n acc) []
  let e := encodeExtra codes ⟨0, 72, plain.length, true, []⟩ 0x80 extra
  (if plain.isEmpty then [] else plain ++ [45]) ++ e.out.reverse

def digitValue? (c : Nat) : Option Nat :=
  if 65 ≤ c && c ≤ 90 then some (c - 65)
  else if 97 ≤ c && c ≤ 122 then some (c - 97)
  else if 48 ≤ c && c ≤ 57 then some (c - 22)
  else none

def readNumber (bias place weight value : Nat) : List Nat → Option (Nat × List Nat)
  | [] => none
  | c :: rest =>
    match digitValue? c with
    | none => none
    | some d =>
      let t := threshold place bias
      let value := value + d * weight
      if d < t then some (value, rest)
      else readNumber bias (place + 1) (weight * (36 - t)) value rest

/-- Where the decoder stands: the text so far, the place of the next insertion, the code point
counted to, the bias, and whether nothing was inserted yet. -/
structure Decoder where
  text : List Nat
  place : Nat
  code : Nat
  bias : Nat
  first : Bool

def Decoder.insert? (d : Decoder) (delta : Nat) : Option Decoder :=
  let size := d.text.length + 1
  let place := d.place + delta
  let code := d.code + place / size
  if 0x10FFFF < code then none
  else
    let place := place % size
    some
      { text := d.text.take place ++ code :: d.text.drop place
        place := place + 1
        code
        bias := adapt delta d.first size
        first := false }

/-- Reads numbers until the digits end. At most `steps` numbers are read. -/
def decodeFrom (d : Decoder) : Nat → List Nat → Option (List Nat)
  | _, [] => some d.text
  | 0, _ => none
  | steps + 1, c :: digits =>
    match readNumber d.bias 0 1 0 (c :: digits) with
    | none => none
    | some (delta, rest) =>
      match d.insert? delta with
      | none => none
      | some d => decodeFrom d steps rest

/-- The code points of a written text; what comes before the last hyphen is plain. -/
def decode (cs : List Nat) : Option (List Nat) :=
  let tail := (cs.reverse.takeWhile (· != 45)).reverse
  let plain := if tail.length == cs.length then [] else cs.take (cs.length - tail.length - 1)
  decodeFrom ⟨plain, 0, 0x80, 72, true⟩ tail.length tail

end AlertRelay.Text.Punycode
