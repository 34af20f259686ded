import AlertRelay.Delivery.Failure
import AlertRelay.Log.Entry

namespace AlertRelay.Delivery

structure Notice where
  entry : Log.Entry
  failure : Option Failure

def Failure.summary (f : Failure) : String := f.name ++ ": " ++ f.message

namespace Notice

def fullEntry (n : Notice) : Log.Entry :=
  match n.failure with
  | some f => { n.entry with fields := Log.put n.entry.fields "exception" (.text f.summary) }
  | none => n.entry

def sent (url : String) : Notice :=
  ⟨.of .debug "servicenow_event_sent" [] [("url", .text url)], none⟩

def updated (enabled : Bool) : Notice :=
  ⟨.of .info "servicenow_config_updated" [] [("enabled", .bool enabled)], none⟩

def notSent (context : Log.Fields) (id level : String) (f : Failure) : Notice :=
  ⟨.of .error "servicenow_send_failed" context [("alert_id", .text id), ("level", .text level)],
    some f⟩

end Notice

end AlertRelay.Delivery
