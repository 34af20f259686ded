import AlertRelay.Command.Arguments
import AlertRelay.Log.Sink

namespace AlertRelay.Command

open AlertRelay.Config AlertRelay.Delivery AlertRelay.Log

inductive Trouble where
  | settings (e : LoadError)
  | level (n : TakenName)
  | options (u : Unfit)
  | failure (f : Failure)

/-- A run that is over: the exit code, or why it broke off; the request that was made; and what
was logged, if the log was set up. -/
structure Finished where
  code : Except Trouble Nat
  exchange : Option Exchange
  sink : Option Sink
  notices : List Notice

def sentNotice (id url : String) : Notice :=
  ⟨.of .info "test_alert_sent" [] [("alert_id", .text id), ("url", .text url)], none⟩

def failedNotice (id : String) (f : Failure) : Notice :=
  ⟨.of .error "test_alert_failed" [] [("alert_id", .text id)], some f⟩

def sendTest (c : ServiceConfig) (o : TestOptions) (sink : Sink) (replies : Replies) : Finished :=
  let (a, _) := Delivery.test c c (.fit o) replies
  match a.outcome with
  | .ok _ => ⟨.ok 0, a.exchange, some sink, a.notices ++ [sentNotice o.id c.url]⟩
  | .error f =>
    if f.isReported then ⟨.ok 1, a.exchange, some sink, a.notices ++ [failedNotice o.id f]⟩
    else ⟨.error (.failure f), a.exchange, some sink, a.notices⟩

def run (files : Files) (a : Arguments) (replies : Replies) : Finished :=
  match readSettings files a.path with
  | .error e => ⟨.error (.settings e), none, none, []⟩
  | .ok s =>
    match Sink.ofSettings s.logging a.threshold none with
    | .error n => ⟨.error (.level n), none, none, []⟩
    | .ok sink =>
      match a.options with
      | .error u => ⟨.error (.options u), none, some sink, []⟩
      | .ok o => sendTest s.service o sink replies

def Finished.entries (f : Finished) : List Entry :=
  match f.sink with
  | some sink => (f.notices.map Notice.fullEntry).filter sink.accepts
  | none => []

end AlertRelay.Command
