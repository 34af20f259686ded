import AlertRelay.Json.Reader

/-!
What a JSON value looks like, as a relation between a text and a tree. Blanks between the parts of
a value and the escapes within its texts are free.
-/

namespace AlertRelay.Json

open AlertRelay.Number AlertRelay.Number.Double AlertRelay.Text

/-- The inside of a quoted text, and the units that it stands for. -/
inductive IsUnits : List Char → List Nat → Prop
  | nil : IsUnits [] []
  | plain {c w us} : c ≠ '"' → c ≠ '\\' → 0x20 ≤ c.toNat → IsUnits w us →
      IsUnits (c :: w) (c.toNat :: us)
  | escape {c e w us} : escaped? c = some e → IsUnits w us →
      IsUnits ('\\' :: c :: w) (e.toNat :: us)
  | number {a b c d w us} : [a, b, c, d].all isHex = true → IsUnits w us →
      IsUnits ('\\' :: 'u' :: a :: b :: c :: d :: w) (hexNumber [a, b, c, d] :: us)

def IsHighHalf (n : Nat) : Prop := 0xD800 ≤ n ∧ n < 0xDC00

def IsLowHalf (n : Nat) : Prop := 0xDC00 ≤ n ∧ n < 0xE000

/-- Units, and the characters that they spell. A half of a surrogate pair that stands alone
spells the character for what cannot be shown. -/
inductive Spells : List Nat → List Char → Prop
  | nil : Spells [] []
  | char {c us s} : Spells us s → Spells (c.toNat :: us) (c :: s)
  | pair {c us s} : 0x10000 ≤ c.toNat → Spells us s → Spells (units c ++ us) (c :: s)
  | half {n us s} : 0xD800 ≤ n → n < 0xE000 →
      ¬ (IsHighHalf n ∧ ∃ m ∈ us.head?, IsLowHalf m) → Spells us s →
      Spells (n :: us) ('\ufffd' :: s)

/-- The inside of a quoted text, in any escaping, and the characters that it stands for. -/
def IsText (w s : List Char) : Prop := ∃ us, IsUnits w us ∧ Spells us s

def IsDigits (ds : List Char) : Prop := ds ≠ [] ∧ ∀ c ∈ ds, isDecimalDigit c = true

/-- The digits of a whole number, which has no zero before other digits. -/
def IsWhole (ds : List Char) : Prop := ds = ['0'] ∨ IsDigits ds ∧ ds.head? ≠ some '0'

inductive IsFraction : List Char → Prop
  | none : IsFraction []
  | point {ds} : IsDigits ds → IsFraction ('.' :: ds)

inductive IsExponent : List Char → Prop
  | none : IsExponent []
  | power {e sign ds} : e = 'e' ∨ e = 'E' → sign = [] ∨ sign = ['+'] ∨ sign = ['-'] →
      IsDigits ds → IsExponent (e :: (sign ++ ds))

inductive IsNumber : List Char → Prop
  | mk {sign whole fraction exponent} : sign = [] ∨ sign = ['-'] → IsWhole whole →
      IsFraction fraction → IsExponent exponent → IsNumber (sign ++ whole ++ fraction ++ exponent)

def AllBlank (b : List Char) : Prop := ∀ c ∈ b, isBlank c = true

mutual

/-- A text that is a value, and the tree of it. -/
inductive IsValue : List Char → Tree → Prop
  | word {w t} : (w, t) ∈ words → IsValue w.toList t
  | number {n} : IsNumber n → IsValue n (.number n)
  | text {w s} : IsText w s → IsValue ('"' :: (w ++ ['"'])) (.text s)
  | emptyList {b} : AllBlank b → IsValue ('[' :: (b ++ [']'])) (.list [])
  | list {b o ts} : AllBlank b → IsItems o ts → IsValue ('[' :: (b ++ o)) (.list ts)
  | emptyObject {b} : AllBlank b → IsValue ('\x7b' :: (b ++ ['\x7d'])) (.object [])
  | object {b o ms} : AllBlank b → IsMembers o ms → IsValue ('\x7b' :: (b ++ o)) (.object ms)

/-- The items of a list with the bracket that closes it. -/
inductive IsItems : List Char → List Tree → Prop
  | last {o t b} : IsValue o t → AllBlank b → IsItems (o ++ (b ++ [']'])) [t]
  | more {o t b b' o' ts} : IsValue o t → AllBlank b → AllBlank b' → IsItems o' ts →
      IsItems (o ++ (b ++ ',' :: (b' ++ o'))) (t :: ts)

inductive IsMember : List Char → List Char × Tree → Prop
  | mk {w key b b' o t} : IsText w key → AllBlank b → AllBlank b' → IsValue o t →
      IsMember ('"' :: (w ++ '"' :: (b ++ ':' :: (b' ++ o)))) (key, t)

/-- The members of an object with the brace that closes it. -/
inductive IsMembers : List Char → List (List Char × Tree) → Prop
  | last {o m b} : IsMember o m → AllBlank b → IsMembers (o ++ (b ++ ['\x7d'])) [m]
  | more {o m b b' o' ms} : IsMember o m → AllBlank b → AllBlank b' → IsMembers o' ms →
      IsMembers (o ++ (b ++ ',' :: (b' ++ o'))) (m :: ms)

end

/-- Whether a number is whole and has more digits than the limit allows. -/
def isLong (n : List Char) : Bool :=
  n.all (fun c => c == '-' || isDecimalDigit c) && digitLimit < (n.filter isDecimalDigit).length

mutual

/-- Whether a whole number within the tree has more digits than the limit allows. -/
def Tree.holdsLong : Tree → Bool
  | .number n => isLong n
  | .list ts => itemsHoldLong ts
  | .object ms => membersHoldLong ms
  | _ => false

def itemsHoldLong : List Tree → Bool
  | [] => false
  | t :: ts => t.holdsLong || itemsHoldLong ts

def membersHoldLong : List (List Char × Tree) → Bool
  | [] => false
  | (_, t) :: ms => t.holdsLong || membersHoldLong ms

end

end AlertRelay.Json
