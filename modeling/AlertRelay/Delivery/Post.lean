import AlertRelay.Alert.Occurrence
import AlertRelay.Config.Handler
import AlertRelay.Delivery.Failure
import AlertRelay.Text.Base64

namespace AlertRelay.Delivery

open AlertRelay.Alert AlertRelay.Config AlertRelay.Number AlertRelay.Text

structure Post where
  url : String
  body : List Nat
  credentials : Option (String × String)
  timeout : Option Double

def basicAuthorization (user password : String) : String :=
  "Basic " ++ String.ofList (Base64.encode (Utf8.encode (user.toList ++ ':' :: password.toList)))

def Post.authorization (p : Post) : Option String :=
  p.credentials.map fun c => basicAuthorization c.1 c.2

def pairOf (user password : String) : Option (String × String) :=
  if user.isEmpty || password.isEmpty then none else some (user, password)

/-- The credentials of the handler, or else those of the service. -/
def credentialsOf (c : ServiceConfig) (h : HandlerConfig) : Option (String × String) :=
  (pairOf h.username h.password).or (pairOf c.username c.password)

def orElse (s t : String) : String := if s.isEmpty then t else s

structure Filled where
  node : String
  type : String
  resource : String
  metricName : String
  messageKey : String
  deriving DecidableEq, Repr

/-- Fills in the templates of a handler in turn, with a buffer that they share. The first failure
ends it. -/
def fillIn (h : HandlerConfig) (data : Value) : Except Template.Failure Filled := do
  let (buffer, node) := Template.renderInto "" "node" h.node data
  let node ← node
  let (buffer, type) := Template.renderInto buffer "type" h.type data
  let type ← type
  let (buffer, resource) := Template.renderInto buffer "resource" h.resource data
  let resource ← resource
  let (buffer, metricName) := Template.renderInto buffer "metricName" h.metricName data
  let metricName ← metricName
  let (_, messageKey) := Template.renderInto buffer "messageKey" h.messageKey data
  let messageKey ← messageKey
  return ⟨node, type, resource, metricName, messageKey⟩

/-- What is sent for an alert. An alert without a message key goes by its id. -/
def payloadOf (source : String) (t : Filled) (o : Occurrence) : Payload :=
  Payload.clamp
    { source
      node := t.node
      type := t.type
      resource := t.resource
      metricName := t.metricName
      messageKey := orElse t.messageKey o.id
      severity := toString (Level.severityOfCode o.level)
      description := o.message }

/-- The request for an alert. A URL that is given goes before that of the configuration. -/
def prepare (c : ServiceConfig) (url : String) (o : Occurrence) (h : HandlerConfig) :
    Except Failure Post := do
  if !c.enabled then throw .disabled
  let u ← (endpoint (orElse url c.url)).mapError .endpoint
  let texts ← (fillIn h (o.data.record o.id).toValue).mapError .template
  let body ← (payloadOf (orElse h.source c.source) texts o).encode.mapError .encoding
  return { url := u.text, body, credentials := credentialsOf c h, timeout := c.timeout }

end AlertRelay.Delivery
