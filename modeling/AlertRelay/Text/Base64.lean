namespace AlertRelay.Text.Base64

def letter (n : Nat) : Char :=
  if n < 26 then Char.ofNat (65 + n)
  else if n < 52 then Char.ofNat (97 + (n - 26))
  else if n < 62 then Char.ofNat (48 + (n - 52))
  else if n == 62 then '+' else '/'

def encode : List Nat → List Char
  | [] => []
  | [a] => [letter (a / 4), letter (a % 4 * 16), '=', '=']
  | [a, b] => [letter (a / 4), letter (a % 4 * 16 + b / 16), letter (b % 16 * 4), '=']
  | a :: b :: c :: rest =>
    letter (a / 4) :: letter (a % 4 * 16 + b / 16) :: letter (b % 16 * 4 + c / 64) ::
      letter (c % 64) :: encode rest

def value? (c : Char) : Option Nat :=
  let n := c.toNat
  if 65 ≤ n && n ≤ 90 then some (n - 65)
  else if 97 ≤ n && n ≤ 122 then some (n - 97 + 26)
  else if 48 ≤ n && n ≤ 57 then some (n - 48 + 52)
  else if c == '+' then some 62
  else if c == '/' then some 63
  else none

/-- The sixes of bits in letters, other characters being passed over, up to the signs that fill
the last group; and whether such signs end the text. -/
def sixes (place pads : Nat) : List Char → List Nat × Bool
  | [] => ([], false)
  | c :: rest =>
    if c == '=' then
      if 2 ≤ place && 4 ≤ place + pads + 1 then ([], true)
      else sixes place (if 2 ≤ place then pads + 1 else pads) rest
    else
      match value? c with
      | none => sixes place pads rest
      | some v =>
        let (vs, ended) := sixes ((place + 1) % 4) 0 rest
        (v :: vs, ended)

/-- The bytes of some sixes of bits; bits that make up no byte are dropped. -/
def bytesOfSixes : List Nat → List Nat
  | a :: b :: c :: d :: rest =>
    (4 * a + b / 16) :: (16 * (b % 16) + c / 4) :: (64 * (c % 4) + d) :: bytesOfSixes rest
  | [a, b, c] => [4 * a + b / 16, 16 * (b % 16) + c / 4]
  | [a, b] => [4 * a + b / 16]
  | _ => []

def decode? (cs : List Char) : Option (List Nat) :=
  let (vs, ended) := sixes 0 0 cs
  if !ended && vs.length % 4 != 0 then none else some (bytesOfSixes vs)

end AlertRelay.Text.Base64
