import AlertRelay.Json.Text
import AlertRelay.Text.Digit
import AlertRelay.Value.Printer

namespace AlertRelay.Template

open AlertRelay.Number AlertRelay.Text

/-- `%`, flags, a width, a precision after a point, and a letter or another `%`. -/
structure Directive where
  flags : List Char
  width : List Char
  precision : Option (List Char)
  verb : Char
  deriving DecidableEq, Repr

inductive Chunk where
  | literal (c : Char)
  | directive (d : Directive)
  deriving DecidableEq, Repr

inductive FormatError where
  | tooManyDigits
  | missingPrecision
  | precisionTooBig
  | noDouble
  | limit (e : LimitError)
  deriving DecidableEq, Repr

def FormatError.message : FormatError → String
  | .tooManyDigits => "Too many decimal digits in format string"
  | .missingPrecision => "Format specifier missing precision"
  | .precisionTooBig => "precision too big"
  | .noDouble => "int too large to convert to float"
  | .limit e => e.message

def isFlag (c : Char) : Bool := c == '-' || c == '+' || c == ' ' || c == '0' || c == '#'

def isVerb (c : Char) : Bool := c.isAlpha || c == '%'

namespace Directive

def length (d : Directive) : Nat :=
  d.flags.length + d.width.length +
    (match d.precision with | some ds => ds.length + 1 | none => 0) + 1

def at? (cs : List Char) : Option Directive :=
  let flags := cs.takeWhile isFlag
  let r := cs.dropWhile isFlag
  let width := r.takeWhile isDigit
  let r := r.dropWhile isDigit
  let (precision, r) :=
    match r with
    | '.' :: r => (some (r.takeWhile isDigit), r.dropWhile isDigit)
    | r => (none, r)
  match r with
  | verb :: _ => if isVerb verb then some ⟨flags, width, precision, verb⟩ else none
  | [] => none

def hasFlag (d : Directive) (c : Char) : Bool := d.flags.contains c

/-- The greatest width and precision that can be written. Memory is taken to hold what they ask
for. -/
def countLimit : Nat := powTwo 63 - 1

def precisionLimit : Nat := powTwo 31 - 1

def count (ds : List Char) : Except FormatError Nat :=
  let n := digitsValue ds
  if countLimit < n then .error .tooManyDigits else .ok n

def width? (d : Directive) : Except FormatError Nat := count d.width

def precision? (d : Directive) : Except FormatError (Option Nat) :=
  match d.precision with
  | none => .ok none
  | some [] => .error .missingPrecision
  | some ds => (count ds).map some

/-- Fills a text up with spaces, on the right if the flag `-` is given. -/
def padText (d : Directive) (width : Nat) (cs : List Char) : List Char :=
  if d.hasFlag '-' then padRight width ' ' cs else padLeft width ' ' cs

def signText (d : Directive) (negative : Bool) : List Char :=
  if negative then ['-']
  else if d.hasFlag '+' then ['+']
  else if d.hasFlag ' ' then [' ']
  else []

/-- Fills a number up: with zeros after the sign if the flags ask for it, else with spaces. -/
def padNumber (d : Directive) (width : Nat) (negative : Bool) (digits : List Char) : List Char :=
  let sign := d.signText negative
  if d.hasFlag '0' && !d.hasFlag '-' then sign ++ padLeft (width - sign.length) '0' digits
  else d.padText width (sign ++ digits)

def misfit (d : Directive) (v : Value) : Except FormatError (List Char) :=
  match v.print with
  | .ok s => .ok ('%' :: '!' :: d.verb :: ("(" ++ v.typeName ++ "=" ++ s ++ ")").toList)
  | .error e => .error (.limit e)

def layText (d : Directive) (s : String) : Except FormatError (List Char) := do
  let width ← d.width?
  match ← d.precision? with
  | none => return d.padText width s.toList
  | some n => return d.padText width (s.toList.take n)

def layQuoted (d : Directive) (s : String) : Except FormatError (List Char) := do
  let width ← d.width?
  return d.padText width (Json.quote s.toList)

def layInt (d : Directive) (n : Int) : Except FormatError (List Char) := do
  let width ← d.width?
  if n.natAbs < limitBound then return d.padNumber width (decide (n < 0)) (natDigits n.natAbs)
  else throw (.limit .writing)

def doubleDigits (verb : Char) (precision m : Nat) (e : Int) : List Char :=
  if verb == 'f' then Double.fixedText precision m e
  else if verb == 'e' then Double.scientificText precision m e
  else Double.generalText precision m e

def layDouble (d : Directive) (x : Double) : Except FormatError (List Char) := do
  let width ← d.width?
  let precision := (← d.precision?).getD 6
  if precisionLimit < precision then throw .precisionTooBig
  else match x with
    | .nan => return d.padNumber width false "nan".toList
    | .infinite s => return d.padNumber width s "inf".toList
    | .finite s m e => return d.padNumber width s (doubleDigits d.verb precision m e)

def printed (v : Value) : Except FormatError String :=
  match v.print with
  | .ok s => .ok s
  | .error e => .error (.limit e)

def lay (d : Directive) (v : Value) : Except FormatError (List Char) :=
  if d.verb == 'v' then do d.layText (← printed v)
  else if d.verb == 'q' then do d.layQuoted (← printed v)
  else if d.verb == 's' then
    match v with
    | .text s => d.layText s
    | _ => d.misfit v
  else if d.verb == 'd' then
    match v with
    | .int n => d.layInt n
    | _ => d.misfit v
  else if d.verb == 'f' || d.verb == 'e' || d.verb == 'g' then
    match v with
    | .int n =>
      match Double.ofInt? n with
      | some x => d.layDouble x
      | none => .error .noDouble
    | .float x => d.layDouble x
    | _ => d.misfit v
  else d.misfit v

def missing (d : Directive) : List Char := '%' :: '!' :: d.verb :: "(MISSING)".toList

end Directive

def chunks : List Char → List Chunk
  | [] => []
  | c :: r =>
    if c == '%' then
      match Directive.at? r with
      | some d => .directive d :: chunks (r.drop d.length)
      | none => .literal c :: chunks r
    else .literal c :: chunks r
termination_by cs => cs.length
decreasing_by all_goals simp only [List.length_drop, List.length_cons]; omega

def extraText (vs : List Value) : Except FormatError (List Char) :=
  if vs.isEmpty then .ok []
  else do
    let ts ← vs.mapM fun v => do return v.typeName ++ "=" ++ (← Directive.printed v)
    return ("%!(EXTRA " ++ ", ".intercalate ts ++ ")").toList

/-- Fills in the parts of a format in turn. -/
def fill : List Chunk → List Value → Except FormatError (List Char)
  | [], vs => extraText vs
  | .literal c :: rest, vs => do return c :: (← fill rest vs)
  | .directive d :: rest, vs =>
    if d.verb == '%' then do return '%' :: (← fill rest vs)
    else
      match vs with
      | [] => do return d.missing ++ (← fill rest [])
      | v :: vs => do
        let t ← d.lay v
        return t ++ (← fill rest vs)

end AlertRelay.Template
