import AlertRelay.Number.Double
import AlertRelay.Text.Blank
import AlertRelay.Text.Digit
import AlertRelay.Text.Word
import AlertRelay.Template.Error
import AlertRelay.Template.Token

namespace AlertRelay.Template

open AlertRelay.Number AlertRelay.Text

def nameAt : List Char → List Char
  | [] => []
  | c :: cs => if isNameStart c then c :: cs.takeWhile isWord else []

def chainAt (cs : List Char) : List (List Char) × Nat :=
  match cs with
  | '.' :: r =>
    match nameAt r with
    | [] => ([], 0)
    | name@(_ :: _) =>
      let (names, n) := chainAt (r.drop name.length)
      (name :: names, n + name.length + 1)
  | _ => ([], 0)
termination_by cs.length
decreasing_by simp only [List.length_drop, List.length_cons]; omega

/-- The parts of a number: sign, digits before the point, the point with the digits after it, and
the exponent with its sign. -/
structure Numeral where
  sign : List Char
  whole : List Char
  fraction : Option (List Char)
  exponent : Option (List Char × List Char)
  deriving DecidableEq, Repr

def takeSign : List Char → List Char × List Char
  | c :: r => if c == '+' || c == '-' then ([c], r) else ([], c :: r)
  | [] => ([], [])

def exponentAt : List Char → Option (List Char × List Char)
  | c :: r =>
    if c == 'e' || c == 'E' then
      let (sign, r) := takeSign r
      match r.takeWhile isDigit with
      | [] => none
      | ds => some (sign, ds)
    else none
  | [] => none

def numeralAt (cs : List Char) : Option Numeral :=
  let (sign, r) := takeSign cs
  let whole := r.takeWhile isDigit
  let r := r.dropWhile isDigit
  match r with
  | '.' :: r =>
    let fraction := r.takeWhile isDigit
    if whole.isEmpty && fraction.isEmpty then none
    else some ⟨sign, whole, some fraction, exponentAt (r.dropWhile isDigit)⟩
  | r => if whole.isEmpty then none else some ⟨sign, whole, none, exponentAt r⟩

namespace Numeral

def length (n : Numeral) : Nat :=
  n.sign.length + n.whole.length +
    (match n.fraction with | some ds => ds.length + 1 | none => 0) +
    (match n.exponent with | some (s, ds) => s.length + ds.length + 1 | none => 0)

def isNegative (sign : List Char) : Bool := sign == ['-']

/-- The value of a number. A point or an exponent makes it one with a fraction. -/
def value (n : Numeral) : Except LimitError Constant :=
  let negative := isNegative n.sign
  match n.fraction, n.exponent with
  | none, none =>
    if digitLimit < n.whole.length then .error (.reading n.whole.length)
    else
      let v := Int.ofNat (digitsValue n.whole)
      .ok (.int (if negative then -v else v))
  | fraction, exponent =>
    let ds := fraction.getD []
    let e : Int :=
      match exponent with
      | none => 0
      | some (sign, es) =>
        let v := Int.ofNat (digitsValue es)
        if isNegative sign then -v else v
    .ok (.float (Double.ofDecimal negative (digitsValue (n.whole ++ ds)) (e - ds.length)))

end Numeral

def escape? (c : Char) : Option Char :=
  if c == 'n' then some '\n'
  else if c == 't' then some '\t'
  else if c == 'r' then some '\r'
  else if c == '\\' || c == '"' || c == '\x27' then some c
  else none

/-- The rest of a quoted text after its opening quote: the text, and how many characters it and
the closing quote take. -/
def quotedAt : List Char → Except Flaw (List Char × Nat)
  | [] => .error .unterminatedQuote
  | '\\' :: [] => .error (.badEscape none)
  | '\\' :: c :: r =>
    match escape? c with
    | none => .error (.badEscape (some c))
    | some e => (quotedAt r).map fun (s, n) => (e :: s, n + 2)
  | c :: r =>
    if c == '\n' then .error .unterminatedQuote
    else if c == '"' then .ok ([], 1)
    else (quotedAt r).map fun (s, n) => (c :: s, n + 1)

def rawQuote : Char := '\x60'

/-- The rest of a raw text after its opening quote, which runs up to the next such quote. -/
def rawAt (cs : List Char) : Except Flaw (List Char × Nat) :=
  let content := cs.takeWhile (· != rawQuote)
  if content.length < cs.length then .ok (content, content.length + 1)
  else .error .unterminatedRaw

inductive ItemError where
  | flaw (what : Flaw)
  | limit (e : LimitError)
  deriving DecidableEq, Repr

def wordItem (name : List Char) : Item :=
  let s := String.ofList name
  if s == "true" then .constant (.bool true)
  else if s == "false" then .constant (.bool false)
  else if s == "nil" then .constant .nil
  else .word s

def numberOrWord (c : Char) (cs : List Char) : Except ItemError (Item × Nat) :=
  match numeralAt (c :: cs) with
  | some n =>
    match n.value with
    | .ok v => .ok (.constant v, n.length - 1)
    | .error e => .error (.limit e)
  | none =>
    match nameAt (c :: cs) with
    | [] =>
      if c == ':' || c == '=' then .error (.flaw .declaration)
      else .error (.flaw (.strayCharacter c))
    | name => .ok (wordItem name, name.length - 1)

def itemAt (c : Char) (cs : List Char) : Except ItemError (Item × Nat) :=
  if c == '|' then .ok (.pipe, 0)
  else if c == '(' then .ok (.leftParen, 0)
  else if c == ')' then .ok (.rightParen, 0)
  else if c == '"' then
    match quotedAt cs with
    | .ok (s, n) => .ok (.constant (.text (String.ofList s)), n)
    | .error e => .error (.flaw e)
  else if c == rawQuote then
    match rawAt cs with
    | .ok (s, n) => .ok (.constant (.text (String.ofList s)), n)
    | .error e => .error (.flaw e)
  else if c == '$' then
    match nameAt cs with
    | name@(_ :: _) => .error (.flaw (.variable (String.ofList name)))
    | [] =>
      let (names, n) := chainAt cs
      .ok (.field true (names.map String.ofList), n)
  else if c == '.' then
    match chainAt (c :: cs) with
    | (names@(_ :: _), n) => .ok (.field false (names.map String.ofList), n - 1)
    | ([], _) =>
      match numeralAt (c :: cs) with
      | none => .ok (.dot, 0)
      | some _ => numberOrWord c cs
  else numberOrWord c cs

/-- A closing delimiter: how many characters it takes, and whether the blanks after it are
dropped, which a minus sign after a blank asks for. -/
def closeAt (afterBlank : Bool) (cs : List Char) : Option (Nat × Bool) :=
  if startsWith rightDelim cs then some (2, false)
  else if afterBlank && startsWith ('-' :: rightDelim) cs then some (3, true)
  else none

/-- What stands between two delimiters: the items, none for a comment, where the closing delimiter
starts and where it ends, whether blanks are dropped after it, and the rest of the source. -/
structure Body where
  comment : Bool
  items : List Placed
  close : Nat
  stop : Nat
  trim : Bool
  rest : List Char

def Body.push (item : Placed) (b : Body) : Body := { b with items := item :: b.items }

def itemsAt (start pos : Nat) (cs : List Char) : Except Refusal Body :=
  let blanks := (cs.takeWhile isBlank).length
  match _h : cs.dropWhile isBlank with
  | [] => .error (.flaw start .unclosedAction)
  | c :: r =>
    match closeAt (blanks != 0) (c :: r) with
    | some (n, trim) => .ok ⟨false, [], pos + blanks, pos + blanks + n, trim, (c :: r).drop n⟩
    | none =>
      match itemAt c r with
      | .error (.flaw e) => .error (.flaw start e)
      | .error (.limit e) => .error (.limit e)
      | .ok (item, n) =>
        (itemsAt start (pos + blanks + n + 1) (r.drop n)).map (.push ⟨item, pos + blanks⟩)
termination_by cs.length
decreasing_by
  have h := congrArg List.length _h
  have := (List.dropWhile_suffix (l := cs) isBlank).length_le
  simp only [List.length_cons] at h
  simp only [List.length_drop]
  omega

def before? (word : List Char) : List Char → Option (List Char)
  | [] => if word.isEmpty then some [] else none
  | c :: r => if startsWith word (c :: r) then some [] else (before? word r).map (c :: ·)

def commentAt (start pos : Nat) (cs : List Char) : Except Refusal Body :=
  match before? ['*', '/'] (cs.drop 2) with
  | none => .error (.flaw start .unclosedComment)
  | some content =>
    let r := cs.drop (content.length + 4)
    let blanks := (r.takeWhile isBlank).length
    let pos := pos + content.length + 4 + blanks
    match closeAt (blanks != 0) (r.drop blanks) with
    | none => .error (.flaw start .textAfterComment)
    | some (n, trim) => .ok ⟨true, [], pos, pos + n, trim, r.drop (blanks + n)⟩

def bodyAt (start pos : Nat) (cs : List Char) : Except Refusal Body :=
  let blanks := (cs.takeWhile isBlank).length
  if startsWith ['/', '*'] (cs.drop blanks) then commentAt start (pos + blanks) (cs.drop blanks)
  else itemsAt start pos cs

def trimsBefore : List Char → Bool
  | '-' :: c :: _ => isBlank c
  | _ => false

def textPiece (pos : Nat) : List Char → List Piece
  | [] => []
  | cs => [.text pos cs]

theorem itemsAt_rest {start pos : Nat} {cs : List Char} {b : Body}
    (h : itemsAt start pos cs = .ok b) : b.rest.length ≤ cs.length := by
  fun_induction itemsAt start pos cs generalizing b with
  | case1 => cases h
  | case2 pos cs _ c r hd n trim =>
    have := (List.dropWhile_suffix (l := cs) isBlank).length_le
    cases h
    simp only [hd, List.length_drop] at *
    omega
  | case3 => cases h
  | case4 => cases h
  | case5 pos cs _ c r hd _ item n _ =>
    rename_i ih
    have hl := (List.dropWhile_suffix (l := cs) isBlank).length_le
    unfold Except.map at h
    split at h
    · cases h
    · rename_i b' hb
      have := ih hb
      cases h
      simp only [hd, Body.push, List.length_drop, List.length_cons] at *
      omega

theorem commentAt_rest {start pos : Nat} {cs : List Char} {b : Body}
    (h : commentAt start pos cs = .ok b) : b.rest.length ≤ cs.length := by
  unfold commentAt at h
  split at h
  · cases h
  · dsimp only at h
    split at h
    · cases h
    · cases h; simp only [List.length_drop]; omega

theorem bodyAt_rest {start pos : Nat} {cs : List Char} {b : Body}
    (h : bodyAt start pos cs = .ok b) : b.rest.length ≤ cs.length := by
  unfold bodyAt at h
  dsimp only at h
  split at h
  · have := commentAt_rest h
    simp only [List.length_drop] at this
    omega
  · exact itemsAt_rest h

theorem before?_length {word cs content : List Char} (h : before? word cs = some content) :
    content.length + word.length ≤ cs.length := by
  induction cs generalizing content with
  | nil => unfold before? at h; split at h <;> simp_all
  | cons c r ih =>
    unfold before? at h
    split at h
    · rename_i hs
      cases h
      have := (List.isPrefixOf_iff_prefix.mp hs).length_le
      simpa using this
    · obtain ⟨t, ht, rfl⟩ := Option.map_eq_some_iff.mp h
      have := ih ht
      simp only [List.length_cons]
      omega

/-- The pieces of the end `cs` of a source that begins at position `pos`. -/
def piecesAt (pos : Nat) (cs : List Char) : Except Refusal (List Piece) :=
  match _h : before? leftDelim cs with
  | none => .ok (textPiece pos cs)
  | some text =>
    let start := pos + text.length
    let inner := cs.drop (text.length + 2)
    let dash := if trimsBefore inner then 1 else 0
    match _hb : bodyAt start (start + 2 + dash) (inner.drop dash) with
    | .error e => .error e
    | .ok b =>
      let blanks := if b.trim then (b.rest.takeWhile isBlank).length else 0
      let kept := if trimsBefore inner then trimEndBy isBlank text else text
      let here := if b.comment then [] else [.action ⟨start, b.items, b.close, b.stop⟩]
      (piecesAt (b.stop + blanks) (b.rest.drop blanks)).map (textPiece pos kept ++ here ++ ·)
termination_by cs.length
decreasing_by
  have h₁ := before?_length _h
  have h₂ := bodyAt_rest _hb
  simp only [inner, List.length_drop] at h₂
  simp only [List.length_drop, leftDelim, List.length_cons, List.length_nil] at *
  omega

def pieces (source : List Char) : Except Refusal (List Piece) := piecesAt 0 source

end AlertRelay.Template
