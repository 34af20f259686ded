import AlertRelay.Template.Directive
import AlertRelay.Template.Node
import AlertRelay.Value.Compare

namespace AlertRelay.Template

open AlertRelay.Number

inductive CallError where
  | tooFew (f : Builtin) (unfilled : List String)
  | tooMany (f : Builtin) (takes given : Nat)
  | compare (e : Value.CompareError)
  | badIndex (typeName : String)
  | outOfRange (index : Int)
  | indexNil
  | notIndexed (typeName : String)
  | unhashable (typeName : String)
  | noLength (typeName : String)
  | tooLong
  | badFormat
  | format (e : FormatError)
  | limit (e : LimitError)
  deriving DecidableEq, Repr

def Builtin.definition (f : Builtin) : String :=
  match f with
  | .printf => "_sprintf"
  | f => "_" ++ f.name

def parameterList : List String → String
  | [] => ""
  | [a] => Text.quoted a
  | a :: rest => Text.quoted a ++ " and " ++ parameterList rest

def CallError.message : CallError → String
  | .tooFew f unfilled =>
    f.definition ++ "() missing " ++ toString unfilled.length ++ " required positional argument" ++
      (if unfilled.length == 1 then "" else "s") ++ ": " ++ parameterList unfilled
  | .tooMany f takes given =>
    f.definition ++ "() takes " ++ toString takes ++ " positional argument" ++
      (if takes == 1 then "" else "s") ++ " but " ++ toString given ++ " were given"
  | .compare e => e.message
  | .badIndex t => "cannot index slice/array with type " ++ t
  | .outOfRange n => "index out of range: " ++ String.ofList (intDigits n)
  | .indexNil => "index of untyped nil"
  | .notIndexed t => "can't index item of type " ++ t
  | .unhashable t => "unhashable type: " ++ Text.quoted t
  | .noLength t => "len of type " ++ t
  | .tooLong => "cannot fit 'int' into an index-sized integer"
  | .badFormat => "format must be a string"
  | .format e => e.message
  | .limit e => e.message

def ofCompare {α : Type} : Except Value.CompareError α → Except CallError α
  | .ok a => .ok a
  | .error e => .error (.compare e)

def ofPrint {α : Type} : Except LimitError α → Except CallError α
  | .ok a => .ok a
  | .error e => .error (.limit e)

/-- The first value that is false, or else the last one. -/
def conjunction (first : Value) : List Value → Value
  | [] => first
  | v :: rest => if first.truth then conjunction v rest else first

/-- The first value that is true, or else the last one. -/
def disjunction (first : Value) : List Value → Value
  | [] => first
  | v :: rest => if first.truth then first else disjunction v rest

def elementAt {α : Type} (xs : List α) (n : Int) : Except CallError α :=
  if n < 0 then outside n
  else
    match xs[n.toNat]? with
    | some x => .ok x
    | none => outside n
where
  outside {α : Type} (n : Int) : Except CallError α :=
    if n.natAbs < limitBound then .error (.outOfRange n) else .error (.limit .writing)

def lookUp (item key : Value) : Except CallError Value :=
  match item with
  | .map entries =>
    if !key.isHashable then .error (.unhashable key.typeName)
    else
      match key with
      | .text k => .ok ((Value.find? k entries).getD .missing)
      | _ => .ok .missing
  | .labels entries =>
    if !key.isHashable then .error (.unhashable key.typeName)
    else
      match key with
      | .text k => .ok (.text ((Value.find? k entries).getD ""))
      | _ => .ok (.text "")
  | .list items =>
    match key with
    | .int n => elementAt items n
    | _ => .error (.badIndex key.typeName)
  | .text s =>
    match key with
    | .int n => (elementAt s.toList n).map fun c => .text (String.singleton c)
    | _ => .error (.badIndex key.typeName)
  | .nil | .missing => .error .indexNil
  | _ => .error (.notIndexed item.typeName)

def lookUpAll (item : Value) : List Value → Except CallError Value
  | [] => .ok item
  | key :: keys => do lookUpAll (← lookUp item key) keys

def counted (n : Nat) : Except CallError Nat :=
  if Directive.countLimit < n then .error .tooLong else .ok n

def lengthOf : Value → Except CallError Nat
  | .text s => counted s.length
  | .list items => counted items.length
  | .map entries => counted entries.length
  | .labels entries => counted entries.length
  | v => .error (.noLength v.typeName)

def isText : Value → Bool
  | .text _ => true
  | _ => false

/-- Texts of values, separated by a space where neither neighbour is a text. -/
def joinSparsely (before : Option Value) : List Value → Except LimitError String
  | [] => .ok ""
  | v :: rest => do
    let gap :=
      match before with
      | some b => if isText b || isText v then "" else " "
      | none => ""
    let t ← v.print
    let more ← joinSparsely (some v) rest
    return gap ++ t ++ more

def joinLine (vs : List Value) : Except LimitError String := do
  return " ".intercalate (← vs.mapM Value.print) ++ "\n"

def format : Value → List Value → Except CallError Value
  | .text s, vs =>
    match fill (chunks s.toList) vs with
    | .ok cs => .ok (.text (String.ofList cs))
    | .error e => .error (.format e)
  | _, _ => .error .badFormat

def bool (b : Except Value.CompareError Bool) : Except CallError Value := ofCompare (b.map .bool)

def binary (f : Builtin) (compare : Value → Value → Except Value.CompareError Bool) :
    List Value → Except CallError Value
  | [] => .error (.tooFew f ["a", "b"])
  | [_] => .error (.tooFew f ["b"])
  | [a, b] => bool (compare a b)
  | vs => .error (.tooMany f 2 vs.length)

def unary (f : Builtin) (g : Value → Except CallError Value) : List Value → Except CallError Value
  | [] => .error (.tooFew f ["value"])
  | [v] => g v
  | vs => .error (.tooMany f 1 vs.length)

namespace Builtin

def apply (f : Builtin) (vs : List Value) : Except CallError Value :=
  match f with
  | .and =>
    match vs with
    | [] => .error (.tooFew f ["first"])
    | v :: rest => .ok (conjunction v rest)
  | .or =>
    match vs with
    | [] => .error (.tooFew f ["first"])
    | v :: rest => .ok (disjunction v rest)
  | .not => unary f (fun v => .ok (.bool !v.truth)) vs
  | .eq =>
    match vs with
    | [] => .error (.tooFew f ["first"])
    | v :: rest => bool (Value.eq v rest)
  | .ne => binary f (fun a b => (Value.eq a [b]).map (!·)) vs
  | .lt => binary f Value.lt vs
  | .le => binary f Value.le vs
  | .gt => binary f Value.gt vs
  | .ge => binary f Value.ge vs
  | .index =>
    match vs with
    | [] => .error (.tooFew f ["item"])
    | v :: keys => lookUpAll v keys
  | .len => unary f (fun v => (lengthOf v).map fun n => .int n) vs
  | .print => ofPrint ((joinSparsely none vs).map .text)
  | .printf =>
    match vs with
    | [] => .error (.tooFew f ["fmt"])
    | v :: rest => format v rest
  | .println => ofPrint ((joinLine vs).map .text)

end Builtin

end AlertRelay.Template
