import AlertRelay.Proofs.Delivery.Requests
import AlertRelay.Proofs.Value.Agreement

/-!
What passwords show in. Two runs in which passwords differ, but not whether there is one, come out
the same but for what the header says that passwords are sent in.
-/

namespace AlertRelay.Config

/-- The same configuration, with another password at most; neither has one, or both. -/
def ServiceConfig.Alike (c d : ServiceConfig) : Prop :=
  ∃ password, (c.password = "" ↔ password = "") ∧ d = { c with password }

/-- The same options, with another password at most; neither have one, or both. -/
def HandlerConfig.Alike (h k : HandlerConfig) : Prop :=
  ∃ password, (h.password = "" ↔ password = "") ∧ k = { h with password }

end AlertRelay.Config

namespace AlertRelay.Delivery

open AlertRelay.Alert AlertRelay.Config

inductive Given.Alike : Given ServiceConfig → Given ServiceConfig → Prop
  | fit {c d} (h : c.Alike d) : Alike (.fit c) (.fit d)
  | other (v : Value) : Alike (.other v) (.other v)

/-- The same thing asked for, with other passwords at most. -/
inductive Step.Alike : Step → Step → Prop
  | alert (url : String) (o : Occurrence) {h k} (hk : h.Alike k) :
      Alike (.alert url o h) (.alert url o k)
  | handle (e : Event) (context : Log.Fields) {h k} (hk : h.Alike k) :
      Alike (.handle e h context) (.handle e k context)
  | test (options : Given TestOptions) : Alike (.test options) (.test options)
  | update {given other} (h : List.Forall₂ Given.Alike given other) :
      Alike (.update given) (.update other)
  | connect : Alike .connect .connect
  | disconnect : Alike .disconnect .disconnect

/-- The same prepared request, with credentials of the same user or none. -/
structure Post.Alike (p q : Post) : Prop where
  url : p.url = q.url
  body : p.body = q.body
  timeout : p.timeout = q.timeout
  user : p.credentials.map Prod.fst = q.credentials.map Prod.fst

/-- The same request, with another header for the credentials at most. -/
structure Request.Alike (r q : Request) : Prop where
  url : r.url = q.url
  body : r.body = q.body
  timeout : r.timeout = q.timeout
  authorized : r.authorization.isSome = q.authorization.isSome

/-- The same answer to requests that are alike. -/
structure Exchange.Alike (x y : Exchange) : Prop where
  request : x.request.Alike y.request
  answer : x.answer = y.answer

/-- The same outcome and the same log entries, of requests that are alike. -/
structure Attempt.Alike (a b : Attempt) : Prop where
  outcome : a.outcome = b.outcome
  notices : a.notices = b.notices
  exchange : Option.Rel Exchange.Alike a.exchange b.exchange

structure Service.Alike (s t : Service) : Prop where
  config : s.config.Alike t.config
  isConnected : s.isConnected = t.isConnected
  replies : s.replies = t.replies

section

variable {c d : ServiceConfig} {h k : HandlerConfig}

end

section

variable {p q : Post}

theorem Post.Alike.authorized (h : p.Alike q) :
    p.authorization.isSome = q.authorization.isSome := by
  have hu := congrArg Option.isSome h.user
  unfold Post.authorization
  rwa [Option.isSome_map, Option.isSome_map] at hu ⊢

end

theorem Attempt.Alike.handled {a b : Attempt} (h : a.Alike b) (e : Event) (context : Log.Fields) :
    (a.handled e context).Alike (b.handled e context) := by
  obtain ⟨ho, hn, hx⟩ := h
  unfold Attempt.handled
  rw [← ho]
  cases a.outcome with
  | ok _ => exact ⟨ho, hn, hx⟩
  | error f =>
    dsimp only
    split
    · exact ⟨rfl, congrArg (· ++ _) hn, hx⟩
    · exact ⟨ho, hn, hx⟩

namespace Service

variable {s t : Service}

end Service

end AlertRelay.Delivery
