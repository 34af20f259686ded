import AlertRelay.Yaml.Error

namespace AlertRelay.Yaml

open AlertRelay.Number

structure Moment where
  year : List Char
  month : List Char
  day : List Char
  time : Option (List Char × List Char × List Char)
  /-- The sign, hours and minutes by which a zone is off; nothing for a zone that is not. -/
  zone : Option (Char × List Char × List Char)

def takeDigits (least most : Nat) (cs : List Char) : Option (List Char × List Char) :=
  let ds := (cs.takeWhile Char.isDigit).take most
  if ds.length < least then none else some (ds, cs.drop ds.length)

def takeMark (c : Char) (cs : List Char) : Option (List Char) :=
  if cs.head? == some c then some (cs.drop 1) else none

def isSpaceOrTab (c : Char) : Bool := c == ' ' || c == '\t'

def zone? (cs : List Char) : Option (Option (Char × List Char × List Char)) :=
  match cs.dropWhile isSpaceOrTab with
  | [] => if cs.isEmpty then some none else none
  | ['Z'] => some none
  | c :: r =>
    if c == '+' || c == '-' then do
      let (hours, r) ← takeDigits 1 2 r
      if r.isEmpty then some (some (c, hours, []))
      else do
        let r ← takeMark ':' r
        let (minutes, r) ← takeDigits 2 2 r
        if r.isEmpty then some (some (c, hours, minutes)) else none
    else none

/-- The time of day after a date, with at most some digits of a second's fraction, and a zone. -/
def timeOfDay? (cs : List Char) :
    Option ((List Char × List Char × List Char) × Option (Char × List Char × List Char)) := do
  let r ←
    match cs with
    | c :: r =>
      if c == 'T' || c == 't' then some r
      else if isSpaceOrTab c then some (cs.dropWhile isSpaceOrTab)
      else none
    | [] => none
  let (hour, r) ← takeDigits 1 2 r
  let r ← takeMark ':' r
  let (minute, r) ← takeDigits 2 2 r
  let r ← takeMark ':' r
  let (second, r) ← takeDigits 2 2 r
  let r := if r.head? == some '.' then (r.drop 1).dropWhile Char.isDigit else r
  let z ← zone? r
  return ((hour, minute, second), z)

def dropLineFeed (cs : List Char) : List Char :=
  if cs.getLast? == some '\n' then cs.dropLast else cs

/-- A date, alone or with a time of day; a line feed may follow. -/
def moment? (cs : List Char) : Option Moment := do
  let (year, r) ← takeDigits 4 4 (dropLineFeed cs)
  let r ← takeMark '-' r
  let (month, r) ← takeDigits 1 2 r
  let r ← takeMark '-' r
  let (day, r) ← takeDigits 1 2 r
  if r.isEmpty then return ⟨year, month, day, none, none⟩
  else
    let (time, zone) ← timeOfDay? r
    return ⟨year, month, day, some time, zone⟩

def isLeap (year : Nat) : Bool := year % 4 == 0 && (year % 100 != 0 || year % 400 == 0)

def monthDays (year month : Nat) : Nat :=
  if month == 2 then if isLeap year then 29 else 28
  else if [4, 6, 9, 11].contains month then 30
  else 31

def checkDate (m : Moment) : Except Error Unit :=
  let year := natOfDigits m.year
  let month := natOfDigits m.month
  let day := natOfDigits m.day
  if year == 0 then .error (.yearRange year)
  else if month == 0 || 12 < month then .error .monthRange
  else if day == 0 || monthDays year month < day then .error .dayRange
  else .ok ()

def checkMoment (m : Moment) : Except Error Unit := do
  match m.zone with
  | some (sign, hours, minutes) =>
    let offset := Int.ofNat (60 * natOfDigits hours + natOfDigits minutes)
    if dayMinutes ≤ offset then
      throw (.zoneRange (if sign == '-' then -offset else offset))
  | none => pure ()
  checkDate m
  match m.time with
  | some (hour, minute, second) =>
    if 23 < natOfDigits hour then throw .hourRange
    if 59 < natOfDigits minute then throw .minuteRange
    if 59 < natOfDigits second then throw .secondRange
  | none => pure ()

end AlertRelay.Yaml
