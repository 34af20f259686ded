import AlertRelay.Config.Endpoint
import AlertRelay.Value.Literal
import AlertRelay.Validation.Scalar

namespace AlertRelay.Config

open AlertRelay.Number AlertRelay.Text AlertRelay.Validation

def defaultUrl : String := "https://instance.service-now.com/api/global/em/jsonv2"

def defaultSource : String := "Kapacitor"

structure ServiceConfig where
  enabled : Bool
  url : String
  username : String
  password : String
  source : String
  isGlobal : Bool
  stateChangesOnly : Bool
  /-- Seconds to wait for an answer; without them there is no limit. -/
  timeout : Option Double
  deriving DecidableEq, Repr

/-- A password as it may be shown: no more than whether there is one. -/
def hiddenText (password : String) : String :=
  "SecretStr(" ++ (if password.isEmpty then "''" else "'**********'") ++ ")"

namespace ServiceConfig

def default : ServiceConfig :=
  { enabled := false
    url := defaultUrl
    username := ""
    password := ""
    source := defaultSource
    isGlobal := false
    stateChangesOnly := false
    timeout := some (Double.ofRatio false 10 1) }

def checkUrl (c : ServiceConfig) : Checked ServiceConfig :=
  if !c.enabled then .ok c
  else if c.url.isEmpty then .complain (.rule "must specify events URL")
  else
    match endpoint c.url with
    | .ok _ => .ok c
    | .error e => .complain (.rule e.message)

def check (v : Value) : Checked ServiceConfig :=
  (modelEntries "ServiceNowConfig" v).bind fun es =>
    let d := default
    let fields :=
      ServiceConfig.mk <$> optionalField es ["enabled"] d.enabled checkTruth
        <*> optionalField es ["url"] d.url checkText
        <*> optionalField es ["username"] d.username checkText
        <*> optionalField es ["password"] d.password checkSecret
        <*> optionalField es ["source"] d.source checkText
        <*> optionalField es ["global", "global_"] d.isGlobal checkTruth
        <*> optionalField es ["state_changes_only"] d.stateChangesOnly checkTruth
        <*> optionalField es ["timeout_secs"] d.timeout checkOptionalNumber
    fields.bind checkUrl

def literal (c : ServiceConfig) : String :=
  "ServiceNowConfig(enabled=" ++ Value.boolWord c.enabled ++ ", url=" ++ quoted c.url ++
    ", username=" ++ quoted c.username ++ ", password=" ++ hiddenText c.password ++
    ", source=" ++ quoted c.source ++ ", global_=" ++ Value.boolWord c.isGlobal ++
    ", state_changes_only=" ++ Value.boolWord c.stateChangesOnly ++ ", timeout_secs=" ++
    (match c.timeout with | some x => x.text | none => "None") ++ ")"

end ServiceConfig

end AlertRelay.Config
