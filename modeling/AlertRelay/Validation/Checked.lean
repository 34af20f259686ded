import AlertRelay.Value.Basic

namespace AlertRelay.Validation

inductive Complaint where
  | text
  | unreadableText
  | truth
  | unreadableTruth
  | number
  | unreadableNumber
  | level
  /-- An integer beyond those of 64 bits. -/
  | hugeInteger
  | map
  | model (name : String)
  | required
  /-- The parts are right, but not together. -/
  | rule (message : String)
  deriving DecidableEq, Repr

namespace Complaint

def sort : Complaint → String
  | .text => "string_type"
  | .unreadableText => "string_unicode"
  | .truth => "bool_type"
  | .unreadableTruth => "bool_parsing"
  | .number => "float_type"
  | .unreadableNumber => "float_parsing"
  | .level => "enum"
  | .hugeInteger => "int_parsing_size"
  | .map => "dict_type"
  | .model _ => "model_type"
  | .required => "missing"
  | .rule _ => "value_error"

def message : Complaint → String
  | .text => "Input should be a valid string"
  | .unreadableText =>
    "Input should be a valid string, unable to parse raw data as a unicode string"
  | .truth => "Input should be a valid boolean"
  | .unreadableTruth => "Input should be a valid boolean, unable to interpret input"
  | .number => "Input should be a valid number"
  | .unreadableNumber => "Input should be a valid number, unable to parse string as a number"
  | .level => "Input should be 0, 1, 2 or 3"
  | .hugeInteger => "Unable to parse input string as an integer, exceeded maximum size"
  | .map => "Input should be a valid dictionary"
  | .model name => "Input should be a valid dictionary or instance of " ++ name
  | .required => "Field required"
  | .rule m => "Value error, " ++ m

end Complaint

structure Problem where
  path : List String
  complaint : Complaint
  deriving DecidableEq, Repr

inductive Checked (α : Type) where
  | ok (a : α)
  | problems (ps : List Problem)
  deriving Repr

namespace Checked

variable {α β : Type}

def complain (c : Complaint) : Checked α := .problems [⟨[], c⟩]

def map (f : α → β) : Checked α → Checked β
  | .ok a => .ok (f a)
  | .problems ps => .problems ps

def apply (f : Checked (α → β)) (x : Checked α) : Checked β :=
  match f, x with
  | .ok f, .ok a => .ok (f a)
  | .ok _, .problems qs => .problems qs
  | .problems ps, .ok _ => .problems ps
  | .problems ps, .problems qs => .problems (ps ++ qs)

instance : Applicative Checked where
  pure := .ok
  map := map
  seq f x := apply f (x ())

def within (key : String) : Checked α → Checked α
  | .ok a => .ok a
  | .problems ps => .problems (ps.map fun p => { p with path := key :: p.path })

def bind (x : Checked α) (f : α → Checked β) : Checked β :=
  match x with
  | .ok a => f a
  | .problems ps => .problems ps

def all (f : α → Checked β) : List α → Checked (List β)
  | [] => .ok []
  | a :: rest => apply (map List.cons (f a)) (all f rest)

end Checked

abbrev Entries := List (String × Value)

def modelEntries (name : String) : Value → Checked Entries
  | .map entries => .ok entries
  | _ => .complain (.model name)

def firstPresent (entries : Entries) : List String → Option (String × Value)
  | [] => none
  | key :: keys =>
    match Value.find? key entries with
    | some v => some (key, v)
    | none => firstPresent entries keys

/-- A field that is left out at will, known under some keys of which the first one wins. -/
def optionalField {α : Type} (entries : Entries) (keys : List String) (default : α)
    (check : Value → Checked α) : Checked α :=
  match firstPresent entries keys with
  | some (key, v) => (check v).within key
  | none => .ok default

def requiredField {α : Type} (entries : Entries) (key : String) (check : Value → Checked α) :
    Checked α :=
  match Value.find? key entries with
  | some v => (check v).within key
  | none => (Checked.complain .required).within key

end AlertRelay.Validation
