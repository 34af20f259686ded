import AlertRelay.Alert.Payload
import AlertRelay.Config.Endpoint
import AlertRelay.Delivery.Fault
import AlertRelay.Delivery.Rejection
import AlertRelay.Template.Basic
import AlertRelay.Text.Ascii

namespace AlertRelay.Delivery

open AlertRelay.Alert AlertRelay.Config AlertRelay.Text

inductive Failure where
  | disabled
  | endpoint (e : EndpointError)
  | template (f : Template.Failure)
  | encoding (e : EncodeError)
  | connection (sort : Breakdown) (message : String)
  | rejected (status : Nat) (body : String)
  | address (f : Url.Flaw)
  | host (pos : Nat) (run : List Char)
  | accident (sort : Accident) (message : String)
  | notOptions (given : Value)
  | manyConfigs (count : Nat)
  | notConfig (given : Value)
  deriving Inhabited

namespace Failure

/-- Whether a failure belongs to the delivery. -/
def isReported : Failure → Bool
  | .disabled => true
  | .endpoint (.flaw ..) => true
  | .endpoint (.notWeb _) => true
  | .endpoint (.host _) => false
  | .template (.compile _) => true
  | .template (.exec _) => true
  | .template (.limit _) => false
  | .encoding _ => true
  | .connection .. => true
  | .rejected .. => true
  | .address _ => false
  | .host .. => false
  | .accident .. => false
  | .notOptions _ => false
  | .manyConfigs _ => false
  | .notConfig _ => false

def isTemplate : Failure → Bool
  | .template _ => true
  | _ => false

def hostName : Url.LabelError → String
  | .joiner .. | .bound .. => "InvalidCodepointContext"
  | .letter .. => "InvalidCodepoint"
  | .unknownDirection .. | .firstDirection _ | .directionToLeft _ | .directionToRight _
  | .mixedNumbers | .lastDirection => "IDNABidiError"
  | _ => "IDNAError"

def name : Failure → String
  | .disabled => "ServiceDisabledError"
  | .endpoint (.host e) => hostName e
  | .endpoint _ => "InvalidURLError"
  | .template (.compile _) => "TemplateCompileError"
  | .template (.exec _) => "TemplateExecError"
  | .template (.limit _) => "ValueError"
  | .encoding _ => "PayloadEncodeError"
  | .connection .. => "ServiceNowConnectionError"
  | .rejected .. => "ServiceNowAPIError"
  | .address _ => "InvalidURL"
  | .host .. => "UnicodeEncodeError"
  | .accident sort _ => sort.name
  | .notOptions _ => "TypeError"
  | .manyConfigs _ => "ValueError"
  | .notConfig _ => "TypeError"

def message : Failure → String
  | .disabled => "service is not enabled"
  | .endpoint e => e.message
  | .template f => f.message
  | .encoding e => e.message
  | .connection _ m => "ServiceNow request failed: " ++ m
  | .rejected status body => rejectionMessage status body
  | .address f => f.message
  | .host pos run => foreignMessage pos run
  | .accident _ m => m
  | .notOptions v => "unexpected options type " ++ v.typeName
  | .manyConfigs n => "expected only one new config object, got " ++ toString n
  | .notConfig v =>
    "expected config object to be of type ServiceNowConfig, got " ++ v.typeName

end Failure

end AlertRelay.Delivery
