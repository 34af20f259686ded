import AlertRelay.Config.Service

namespace AlertRelay.Config

open AlertRelay.Text AlertRelay.Validation

structure HandlerConfig where
  url : String
  username : String
  password : String
  source : String
  node : String
  type : String
  resource : String
  metricName : String
  messageKey : String
  deriving DecidableEq, Repr

namespace HandlerConfig

def empty : HandlerConfig := ⟨"", "", "", "", "", "", "", "", ""⟩

def check (v : Value) : Checked HandlerConfig :=
  (modelEntries "HandlerConfig" v).bind fun es =>
    HandlerConfig.mk <$> optionalField es ["url"] "" checkText
      <*> optionalField es ["username"] "" checkText
      <*> optionalField es ["password"] "" checkSecret
      <*> optionalField es ["source"] "" checkText
      <*> optionalField es ["node"] "" checkText
      <*> optionalField es ["type"] "" checkText
      <*> optionalField es ["resource"] "" checkText
      <*> optionalField es ["metric_name"] "" checkText
      <*> optionalField es ["messageKey", "message_key"] "" checkText

def literal (c : HandlerConfig) : String :=
  "HandlerConfig(url=" ++ quoted c.url ++ ", username=" ++ quoted c.username ++ ", password=" ++
    hiddenText c.password ++ ", source=" ++ quoted c.source ++ ", node=" ++ quoted c.node ++
    ", type=" ++ quoted c.type ++ ", resource=" ++ quoted c.resource ++ ", metric_name=" ++
    quoted c.metricName ++ ", message_key=" ++ quoted c.messageKey ++ ")"

end HandlerConfig

end AlertRelay.Config
