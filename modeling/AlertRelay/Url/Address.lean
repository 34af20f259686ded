import AlertRelay.Number.Decimal
import AlertRelay.Number.Reading
import AlertRelay.Text.Hex
import AlertRelay.Text.Split

namespace AlertRelay.Url

open AlertRelay.Number AlertRelay.Text

def isOctet (cs : List Char) : Bool :=
  !cs.isEmpty && cs.all Double.isDecimalDigit && cs.length ≤ 3 &&
    (cs.head? != some '0' || cs.length == 1) && natOfDigits cs ≤ 255

def isFourPart (cs : List Char) : Bool :=
  let ps := splitAt '.' cs
  ps.length == 4 && ps.all isOctet

def looksFourPart (cs : List Char) : Bool :=
  let ps := splitAt '.' cs
  ps.length == 4 && ps.all fun p => !p.isEmpty && p.all Double.isDecimalDigit

def isGroup (cs : List Char) : Bool := !cs.isEmpty && cs.length ≤ 4 && cs.all isHex

def groupCount : Nat := 8

/-- Groups on one side of a gap, of which the outermost may be missing if there is no other. -/
def sideGroups (outer : Option (List Char)) (ps : List (List Char)) : Option Nat :=
  if outer == some [] then if ps.length == 1 then some 0 else none
  else if ps.all isGroup then some ps.length else none

/-- Parts between colons make up an address if they are eight groups, or fewer with one gap. -/
def areGroups (ps : List (List Char)) : Bool :=
  let inner := (ps.drop 1).dropLast
  match (inner.filter List.isEmpty).length with
  | 0 => ps.length == groupCount && ps.all isGroup
  | 1 =>
    let before := ps.take ((inner.takeWhile fun p => !p.isEmpty).length + 1)
    let after := ps.drop (before.length + 1)
    match sideGroups before.head? before, sideGroups after.getLast? after with
    | some n, some m => n + m < groupCount
    | _, _ => false
  | _ => false

/-- An address of eight parts. The last two may be written as one of four parts, and a scope may
follow after a percent sign. -/
def isEightPart (cs : List Char) : Bool :=
  let address := cs.takeWhile (· != '%')
  let scope := cs.drop (address.length + 1)
  let hasScope := address.length < cs.length
  let ps := splitAt ':' address
  let last := ps.getLast?.getD []
  !cs.contains '/' && !(hasScope && (scope.isEmpty || scope.contains '%')) && 3 ≤ ps.length &&
    (if last.contains '.' then
      isFourPart last && areGroups (ps.dropLast ++ [['0'], ['0']])
    else areGroups ps)

end AlertRelay.Url
