import AlertRelay.Text.Hex

namespace AlertRelay.Text

def isAscii (c : Char) : Bool := c.toNat < 0x80

def foreignRun? (cs : List Char) : Option (Nat × List Char) :=
  match cs.dropWhile isAscii with
  | [] => none
  | rest => some ((cs.takeWhile isAscii).length, rest.takeWhile (!isAscii ·))

def codeEscape (c : Char) : List Char :=
  let n := c.toNat
  if n < 0x100 then '\\' :: 'x' :: hex 2 n
  else if n < 0x10000 then '\\' :: 'u' :: hex 4 n
  else '\\' :: 'U' :: hex 8 n

def foreignMessage (pos : Nat) (run : List Char) : String :=
  let place :=
    match run with
    | [c] => "character '" ++ String.ofList (codeEscape c) ++ "' in position " ++ toString pos
    | _ => "characters in position " ++ toString pos ++ "-" ++ toString (pos + run.length - 1)
  "'ascii' codec can't encode " ++ place ++ ": ordinal not in range(128)"

end AlertRelay.Text
