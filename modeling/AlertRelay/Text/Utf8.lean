namespace AlertRelay.Text.Utf8

def encode (cs : List Char) : List Nat :=
  cs.flatMap fun c => (String.utf8EncodeChar c).map UInt8.toNat

/-- Between two bytes of a character: how many are still owed, the least and the greatest that
the next may be, and what the bytes so far contribute to the code point. -/
structure Owing where
  count : Nat
  low : Nat
  high : Nat
  code : Nat

inductive State where
  | between
  | within (o : Owing)

def replacement : Char := Char.ofNat 0xFFFD

def first (b : Nat) : List Char × State :=
  if b < 0x80 then ([Char.ofNat b], .between)
  else if 0xC2 ≤ b && b ≤ 0xDF then ([], .within ⟨1, 0x80, 0xBF, b - 0xC0⟩)
  else if b == 0xE0 then ([], .within ⟨2, 0xA0, 0xBF, 0⟩)
  else if b == 0xED then ([], .within ⟨2, 0x80, 0x9F, 0xD⟩)
  else if 0xE1 ≤ b && b ≤ 0xEF then ([], .within ⟨2, 0x80, 0xBF, b - 0xE0⟩)
  else if b == 0xF0 then ([], .within ⟨3, 0x90, 0xBF, 0⟩)
  else if 0xF1 ≤ b && b ≤ 0xF3 then ([], .within ⟨3, 0x80, 0xBF, b - 0xF0⟩)
  else if b == 0xF4 then ([], .within ⟨3, 0x80, 0x8F, 4⟩)
  else ([replacement], .between)

/-- One byte in any state. A byte that cannot go on ends the piece and is read afresh. -/
def step (b : Nat) : State → List Char × State
  | .between => first b
  | .within o =>
    if o.low ≤ b && b ≤ o.high then
      let code := 64 * o.code + (b - 0x80)
      if o.count ≤ 1 then ([Char.ofNat code], .between)
      else ([], .within ⟨o.count - 1, 0x80, 0xBF, code⟩)
    else
      let (cs, s) := first b
      (replacement :: cs, s)

def decodeFrom (s : State) : List Nat → List Char
  | [] =>
    match s with
    | .between => []
    | .within _ => [replacement]
  | b :: bs =>
    let (cs, s) := step b s
    cs ++ decodeFrom s bs

def decode (bytes : List Nat) : List Char := decodeFrom .between bytes

def decode? (bytes : List Nat) : Option (List Char) :=
  let cs := decode bytes
  if encode cs == bytes then some cs else none

end AlertRelay.Text.Utf8
