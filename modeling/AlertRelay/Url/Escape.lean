import AlertRelay.Text.Hex
import AlertRelay.Text.Utf8

namespace AlertRelay.Url

open AlertRelay.Text

def isUnreserved (c : Char) : Bool :=
  c.isAlphanum || c == '-' || c == '.' || c == '_' || c == '~'

def printableBut (except : String) (c : Char) : Bool :=
  0x20 ≤ c.toNat && c.toNat < 0x7F && !except.toList.contains c

def fragmentSafe : Char → Bool := printableBut " \"<>\x60"

def querySafe : Char → Bool := printableBut " \"#<>"

def pathSafe : Char → Bool := printableBut " \"#<>?\x60\x7b\x7d"

def userSafe : Char → Bool := printableBut " \"#<>?\x60\x7b\x7d/;=@[\\]^|"

def hostSafe (c : Char) : Bool := "!$&'()*+,;=\"\x60\x7b\x7d%|\\".toList.contains c

def percent (c : Char) : List Char :=
  (Utf8.encode [c]).flatMap fun b => '%' :: (hex 2 b).map Char.toUpper

def escapeChar (safe : Char → Bool) (c : Char) : List Char :=
  if isUnreserved c || safe c then [c] else percent c

def escape (safe : Char → Bool) : List Char → List Char
  | [] => []
  | '%' :: a :: b :: rest =>
    if isHex a && isHex b then '%' :: a :: b :: escape safe rest
    else escapeChar safe '%' ++ escape safe (a :: b :: rest)
  | c :: rest => escapeChar safe c ++ escape safe rest

def unescapedBytes : List Char → List Nat
  | [] => []
  | '%' :: a :: b :: rest =>
    if isHex a && isHex b then (16 * hexValue a + hexValue b) :: unescapedBytes rest
    else 37 :: unescapedBytes (a :: b :: rest)
  | c :: rest => Utf8.encode [c] ++ unescapedBytes rest

def unescape (cs : List Char) : List Char := Utf8.decode (unescapedBytes cs)

end AlertRelay.Url
