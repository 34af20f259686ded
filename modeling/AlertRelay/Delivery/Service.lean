import AlertRelay.Delivery.Exchange

namespace AlertRelay.Delivery

open AlertRelay.Alert AlertRelay.Config AlertRelay.Validation

inductive Given (α : Type) where
  | fit (a : α)
  | other (v : Value)

structure TestOptions where
  id : String
  source : String
  level : Level
  message : String
  deriving DecidableEq, Repr

namespace TestOptions

def default : TestOptions := ⟨"id", defaultSource, .critical, "test servicenow alert"⟩

def check (v : Value) : Checked TestOptions :=
  (modelEntries "AlertTestOptions" v).bind fun es =>
    TestOptions.mk <$> optionalField es ["alert_id"] default.id checkText
      <*> optionalField es ["source"] default.source checkText
      <*> optionalField es ["level"] default.level checkLevel
      <*> optionalField es ["message"] default.message checkText

def occurrence (o : TestOptions) : Occurrence := ⟨o.id, o.message, o.level.code, .empty⟩

def handler (o : TestOptions) : HandlerConfig := { HandlerConfig.empty with source := o.source }

end TestOptions

def alert (c : ServiceConfig) (url : String) (o : Occurrence) (h : HandlerConfig)
    (replies : Replies) : Attempt × Replies :=
  attempt (prepare c url o h) replies

/-- Hands an event to a handler, which reports a failure of the delivery and drops it. -/
def handle (c : ServiceConfig) (e : Event) (h : HandlerConfig) (context : Log.Fields)
    (replies : Replies) : Attempt × Replies :=
  let (a, replies) := alert c h.url e.occurrence h replies
  match a.outcome with
  | .ok _ => (a, replies)
  | .error f =>
    if f.isReported then
      let notice := Notice.notSent context e.state.id e.state.level.name f
      ({ a with outcome := .ok (), notices := a.notices ++ [notice] }, replies)
    else (a, replies)

/-- Sends an alert as a test. The configuration is read twice: first for the URL, and once more
when the request is prepared. -/
def test (first second : ServiceConfig) (options : Given TestOptions) (replies : Replies) :
    Attempt × Replies :=
  match options with
  | .other v => (.failed (.notOptions v), replies)
  | .fit o => alert second first.url o.occurrence o.handler replies

def updated : List (Given ServiceConfig) → Except Failure ServiceConfig
  | [.fit c] => .ok c
  | [.other v] => .error (.notConfig v)
  | given => .error (.manyConfigs given.length)

inductive Step where
  | alert (url : String) (o : Occurrence) (h : HandlerConfig)
  | handle (e : Event) (h : HandlerConfig) (context : Log.Fields)
  | test (options : Given TestOptions)
  | update (given : List (Given ServiceConfig))
  | connect
  | disconnect

structure Service where
  config : ServiceConfig
  isConnected : Bool
  replies : Replies

namespace Service

def start (c : ServiceConfig) (replies : Replies) : Service := ⟨c, false, replies⟩

def step (s : Service) : Step → Attempt × Service
  | .alert url o h =>
    let (a, replies) := Delivery.alert s.config url o h s.replies
    (a, { s with replies })
  | .handle e h context =>
    let (a, replies) := Delivery.handle s.config e h context s.replies
    (a, { s with replies })
  | .test options =>
    let (a, replies) := Delivery.test s.config s.config options s.replies
    (a, { s with replies })
  | .update given =>
    match updated given with
    | .ok c => (⟨.ok (), none, [.updated c.enabled]⟩, { s with config := c })
    | .error f => (.failed f, s)
  | .connect => (⟨.ok (), none, []⟩, { s with isConnected := true })
  | .disconnect => (⟨.ok (), none, []⟩, { s with isConnected := false })

def run (s : Service) : List Step → List Attempt × Service
  | [] => ([], s)
  | x :: rest =>
    let (a, s) := s.step x
    let (as, s) := s.run rest
    (a :: as, s)

end Service

end AlertRelay.Delivery
