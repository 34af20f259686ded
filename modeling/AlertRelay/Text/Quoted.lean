import AlertRelay.Text.Hex
import AlertRelay.Text.Printable

namespace AlertRelay.Text

def singleQuote : Nat := 39

def doubleQuote : Nat := 34

def quotedCode (quote n : Nat) : List Char :=
  if n == quote || n == 92 then ['\\', Char.ofNat n]
  else if n == 10 then ['\\', 'n']
  else if n == 13 then ['\\', 'r']
  else if n == 9 then ['\\', 't']
  else if isPrintable n then [Char.ofNat n]
  else if n < 0x100 then '\\' :: 'x' :: hex 2 n
  else if n < 0x10000 then '\\' :: 'u' :: hex 4 n
  else '\\' :: 'U' :: hex 8 n

/-- The quote that needs fewer escapes. -/
def quoteFor (codes : List Nat) : Nat :=
  if codes.contains singleQuote && !codes.contains doubleQuote then doubleQuote else singleQuote

def quotedCodes (codes : List Nat) : List Char :=
  let q := quoteFor codes
  Char.ofNat q :: codes.flatMap (quotedCode q) ++ [Char.ofNat q]

/-- One byte inside quotes: no byte beyond the first 128 has a shape. -/
def quotedByte (quote n : Nat) : List Char :=
  if n < 0x80 then quotedCode quote n else '\\' :: 'x' :: hex 2 n

def quotedBytes (bs : List Nat) : String :=
  let q := quoteFor bs
  String.ofList ('b' :: Char.ofNat q :: bs.flatMap (quotedByte q) ++ [Char.ofNat q])

def quoted (s : String) : String := String.ofList (quotedCodes (s.toList.map Char.toNat))

end AlertRelay.Text
