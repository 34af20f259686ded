import AlertRelay.Number.Decimal
import AlertRelay.Text.Quoted

namespace AlertRelay.Template

open AlertRelay.Text

inductive Flaw where
  | unclosedComment
  | textAfterComment
  | unclosedAction
  | unterminatedRaw
  | unterminatedQuote
  | badEscape (c : Option Char)
  | variable (name : String)
  | declaration
  | strayCharacter (c : Char)
  | unexpected (description : String)
  | missingValue (what : String)
  | unknownFunction (name : String)
  | tooDeep
  | unclosedBlock (keyword : String)
  | missingEnd (keyword : String)
  | unsupported (word : String)
  deriving DecidableEq, Repr

def Flaw.message : Flaw → String
  | .unclosedComment => "unclosed comment"
  | .textAfterComment => "comment ends before closing delimiter"
  | .unclosedAction => "unclosed action"
  | .unterminatedRaw => "unterminated raw quoted string"
  | .unterminatedQuote => "unterminated quoted string"
  | .badEscape c => "invalid escape \\" ++ String.ofList c.toList ++ " in quoted string"
  | .variable name => "undefined variable \"$" ++ name ++ "\""
  | .declaration => "variable declarations are not supported"
  | .strayCharacter c => "unexpected " ++ quoted (String.singleton c) ++ " in command"
  | .unexpected what => "unexpected " ++ what
  | .missingValue what => "missing value for " ++ what
  | .unknownFunction name => "function \"" ++ name ++ "\" not defined"
  | .tooDeep => "max expression depth exceeded"
  | .unclosedBlock keyword => "unexpected EOF in " ++ keyword
  | .missingEnd keyword => "expected end in " ++ keyword
  | .unsupported word => word ++ " is not supported"

/-- Why a source is refused: a flaw at a position, or an integer of too many digits. -/
inductive Refusal where
  | flaw (pos : Nat) (what : Flaw)
  | limit (e : Number.LimitError)
  deriving DecidableEq, Repr

structure CompileError where
  name : String
  line : Nat
  flaw : Flaw
  deriving DecidableEq, Repr

def CompileError.message (e : CompileError) : String :=
  "template: " ++ e.name ++ ":" ++ toString e.line ++ ": " ++ e.flaw.message

def lineAt (source : List Char) (pos : Nat) : Nat := (source.take pos).count '\n' + 1

def columnAt (source : List Char) (pos : Nat) : Nat :=
  ((source.take pos).reverse.takeWhile (· != '\n')).length

end AlertRelay.Template
