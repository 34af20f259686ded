import AlertRelay.Alert.Level
import AlertRelay.Json.Text
import AlertRelay.Text.Utf8
import AlertRelay.Validation.Scalar

namespace AlertRelay.Alert

open AlertRelay.Text AlertRelay.Validation

def usualLimit : Nat := 100

def messageKeyLimit : Nat := 1024

def descriptionLimit : Nat := 4000

def cut (s : String) (limit : Int) : String := String.ofList (s.toList.take limit.toNat)

structure Payload where
  source : String
  node : String
  type : String
  resource : String
  metricName : String
  messageKey : String
  severity : String
  description : String
  deriving DecidableEq, Repr

/-- A text holds a code point that has no UTF-8 form. -/
inductive EncodeError where
  | unencodable
  deriving DecidableEq, Repr

def EncodeError.message : EncodeError → String
  | .unencodable => "error marshaling alert struct"

def charsOf? : List Nat → Option (List Char)
  | [] => some []
  | n :: rest =>
    if n.isValidChar then (charsOf? rest).map (Char.ofNat n :: ·) else none

def memberText (m : String × List Char) : List Char :=
  Json.quote m.1.toList ++ ':' :: Json.quote m.2

def objectText (ms : List (String × List Char)) : List Char :=
  '\x7b' :: [','].intercalate (ms.map memberText) ++ ['\x7d']

def encodeFields (fields : List (String × List Nat)) : Except EncodeError (List Nat) :=
  match fields.mapM fun f => (charsOf? f.2).map fun cs => (f.1, cs) with
  | some ms => .ok (Utf8.encode (objectText ms))
  | none => .error .unencodable

namespace Payload

def fields (p : Payload) : List (String × String) :=
  [("source", p.source), ("node", p.node), ("type", p.type), ("resource", p.resource),
    ("metric_name", p.metricName), ("message_key", p.messageKey), ("severity", p.severity),
    ("description", p.description)]

def encode (p : Payload) : Except EncodeError (List Nat) :=
  encodeFields (p.fields.map fun f => (f.1, f.2.toList.map Char.toNat))

def check (v : Value) : Checked Payload :=
  (modelEntries "ServiceNowAlert" v).bind fun es =>
    Payload.mk <$> requiredField es "source" checkText <*> optionalField es ["node"] "" checkText
      <*> optionalField es ["type"] "" checkText <*> optionalField es ["resource"] "" checkText
      <*> optionalField es ["metric_name"] "" checkText
      <*> optionalField es ["message_key"] "" checkText
      <*> optionalField es ["severity"] "0" checkText
      <*> optionalField es ["description"] "" checkText

def clamp (p : Payload) : Payload :=
  { source := cut p.source usualLimit
    node := cut p.node usualLimit
    type := cut p.type usualLimit
    resource := cut p.resource usualLimit
    metricName := cut p.metricName usualLimit
    messageKey := cut p.messageKey messageKeyLimit
    severity := p.severity
    description := cut p.description descriptionLimit }

end Payload

end AlertRelay.Alert
