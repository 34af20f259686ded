import AlertRelay.Url.Basic

namespace AlertRelay.Config

inductive EndpointError where
  | flaw (raw : String) (f : Url.Flaw)
  | notWeb (raw : String)
  | host (e : Url.LabelError)
  deriving DecidableEq, Repr

def EndpointError.message : EndpointError → String
  | .flaw raw f => "invalid url " ++ Text.quoted raw ++ ": " ++ f.message
  | .notWeb raw => "invalid url " ++ Text.quoted raw ++ ": expected absolute http(s) URL"
  | .host e => e.message

/-- The URL that a text stands for, if events can be sent to it. -/
def endpoint (raw : String) : Except EndpointError Url :=
  match Url.parse raw with
  | .error f => .error (.flaw raw f)
  | .ok u =>
    if !u.isWeb then .error (.notWeb raw)
    else
      match u.checkHost with
      | .error e => .error (.host e)
      | .ok _ => if u.host.isEmpty then .error (.notWeb raw) else .ok u

end AlertRelay.Config
