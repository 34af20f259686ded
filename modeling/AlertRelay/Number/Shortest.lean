import AlertRelay.Number.Double

namespace AlertRelay.Number.Double

/-- Digits and the power of ten that the first of them counts less than: `0.d₁d₂…` times that
power. -/
structure Digits where
  digits : Nat
  count : Nat
  point : Int
  deriving DecidableEq, Repr

def tenLe (a : Nat) (p : Int) (num den : Nat) : Bool :=
  if 0 ≤ p then a * powTen p.toNat * den ≤ num else a * den ≤ num * powTen (-p).toNat

/-- The power of ten just above a positive fraction: the least `k` with
`num / den < 10 ^ k`. -/
def magnitude (num den : Nat) : Int :=
  let guess := ((num.log2 : Int) - den.log2) * 30103 / 100000
  if tenLe 1 (guess + 1) num den then guess + 2
  else if tenLe 1 guess num den then guess + 1
  else if tenLe 1 (guess - 1) num den then guess
  else guess - 1

/-- The interval of the reals that round to a number, over a common denominator: its lower end,
the number, its upper end, and whether the ends belong to it. -/
structure Neighbourhood where
  low : Nat
  mid : Nat
  high : Nat
  den : Nat
  closed : Bool

def neighbourhood (m : Nat) (e : Int) : Neighbourhood :=
  let below := if m == powTwo 52 && leastExponent < e then 1 else 2
  let (k, den) := if 2 ≤ e then (powTwo (e - 2).toNat, 1) else (1, powTwo (2 - e).toNat)
  ⟨(4 * m - below) * k, 4 * m * k, (4 * m + 2) * k, den, m % 2 == 0⟩

def Neighbourhood.contains (b : Neighbourhood) (d : Nat) (p : Int) : Bool :=
  let (a, num) := if 0 ≤ p then (d * powTen p.toNat * b.den, 1) else (d * b.den, powTen (-p).toNat)
  if b.closed then b.low * num ≤ a && a ≤ b.high * num else b.low * num < a && a < b.high * num

def Neighbourhood.pick (b : Neighbourhood) (p : Int) : Option Nat :=
  let (unit, num) := if 0 ≤ p then (powTen p.toNat * b.den, 1) else (b.den, powTen (-p).toNat)
  let below := b.mid * num / unit
  let rest := b.mid * num % unit
  let nearer := if unit < 2 * rest || (2 * rest == unit && below % 2 == 1) then below + 1 else below
  let other := if nearer == below then below + 1 else below
  if b.contains nearer p then some nearer
  else if b.contains other p then some other
  else none

/-- Tries grids of `n` digits, then of one digit more, as often as `fuel` allows. -/
def Neighbourhood.search (b : Neighbourhood) (top : Int) : Nat → Nat → Option (Nat × Nat)
  | 0, _ => none
  | fuel + 1, n =>
    match b.pick (top - n) with
    | some d => some (d, n)
    | none => search b top fuel (n + 1)

def stripZeros : Nat → Nat → Nat → Nat × Nat
  | 0, d, n => (d, n)
  | fuel + 1, d, n => if d % 10 == 0 && 1 < n then stripZeros fuel (d / 10) (n - 1) else (d, n)

/-- The shortest digits of a positive number. Seventeen digits always suffice. -/
def shortest (m : Nat) (e : Int) : Digits :=
  let b := neighbourhood m e
  let top := magnitude b.mid b.den
  match b.search top 17 1 with
  | none => ⟨0, 1, 1⟩
  | some (d, n) =>
    let (d, n, top) := if d == powTen n then (1, 1, top + 1) else (d, n, top)
    let (d, n) := stripZeros n d n
    ⟨d, n, top⟩

end AlertRelay.Number.Double
