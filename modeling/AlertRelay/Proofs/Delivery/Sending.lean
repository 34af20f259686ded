import AlertRelay.Proofs.Delivery.Reporting

/-!
What the steps of a service send. No more than the configuration at that moment decides on it; the
replies decide only on what comes of it.
-/

namespace AlertRelay.Delivery

open AlertRelay.Alert AlertRelay.Config

/-- The configuration that a step puts in place: that of an update that gives one and nothing
else. -/
def Step.accepted? : Step → Option ServiceConfig
  | .update [.fit c] => some c
  | _ => none

/-- What a step prepares to send under a configuration, if it is one that sends. -/
def Step.preparation? (c : ServiceConfig) : Step → Option (Except Failure Post)
  | .alert url o h => some (prepare c url o h)
  | .handle e h _ => some (prepare c h.url e.occurrence h)
  | .test (.fit o) => some (prepare c c.url o.occurrence o.handler)
  | .test (.other _) | .update _ | .connect | .disconnect => none

/-- The request made of what was prepared, if that came out well and the client takes it. -/
def requestOf? : Except Failure Post → Option Request
  | .ok p => (requestOf p).toOption
  | .error _ => none

/-- The request that a step makes under a configuration. -/
def Step.request? (c : ServiceConfig) (x : Step) : Option Request :=
  (x.preparation? c).bind requestOf?

/-- The request that was made, if any. -/
def Attempt.request? (a : Attempt) : Option Request := a.exchange.map Exchange.request

/-- What a handler makes of what came of an alert. -/
def Attempt.handled (a : Attempt) (e : Event) (context : Log.Fields) : Attempt :=
  match a.outcome with
  | .ok _ => a
  | .error f =>
    if f.isReported then a.dropped (.notSent context e.state.id e.state.level.name f) else a

theorem exchange_handled (a : Attempt) (e : Event) (context : Log.Fields) :
    (a.handled e context).exchange = a.exchange := by
  unfold Attempt.handled
  split
  · rfl
  · split <;> rfl

/-- A handler sends what an alert sends, and only looks at what came of it. -/
theorem handle_eq (c : ServiceConfig) (e : Event) (h : HandlerConfig) (context : Log.Fields)
    (replies : Replies) :
    handle c e h context replies =
      ((alert c h.url e.occurrence h replies).1.handled e context,
        (alert c h.url e.occurrence h replies).2) := by
  unfold handle Attempt.handled
  dsimp only
  cases (alert c h.url e.occurrence h replies).1.outcome with
  | ok _ => rfl
  | error f =>
    dsimp only
    split <;> rfl

theorem updated_eq_ok_iff {given : List (Given ServiceConfig)} {c : ServiceConfig} :
    updated given = .ok c ↔ given = [.fit c] := by
  constructor
  · intro h
    unfold updated at h
    split at h
    · cases h
      rfl
    · cases h
    · cases h
  · rintro rfl
    rfl

theorem accepted?_eq_some_iff {x : Step} {c : ServiceConfig} :
    x.accepted? = some c ↔ x = .update [.fit c] := by
  constructor
  · intro h
    unfold Step.accepted? at h
    split at h
    · cases h
      rfl
    · cases h
  · rintro rfl
    rfl

theorem accepted?_update (given : List (Given ServiceConfig)) :
    (Step.update given).accepted? = (updated given).toOption := by
  cases hu : updated given with
  | ok c =>
    rw [updated_eq_ok_iff] at hu
    rw [hu]
    rfl
  | error f =>
    cases ha : (Step.update given).accepted? with
    | none => rfl
    | some c =>
      rw [accepted?_eq_some_iff, Step.update.injEq] at ha
      rw [updated_eq_ok_iff.mpr ha] at hu
      cases hu

theorem requestOf?_ok (p : Post) : requestOf? (.ok p) = (requestOf p).toOption := rfl

theorem request?_send (p : Post) (r : Request) (reply : Reply) :
    (send p r reply).request? = some r := by
  cases reply <;> rfl

theorem request?_attempt (p : Except Failure Post) (replies : Replies) :
    (attempt p replies).1.request? = requestOf? p := by
  cases p with
  | error f => rfl
  | ok p =>
    rw [requestOf?_ok]
    cases hr : requestOf p with
    | error f =>
      rw [attempt_refused hr]
      rfl
    | ok r =>
      rw [attempt_made hr]
      exact request?_send p r replies.next.1

/-- Each request takes one reply. -/
theorem replies_attempt (p : Except Failure Post) (replies : Replies) :
    (attempt p replies).2 = replies.drop (requestOf? p).toList.length := by
  cases p with
  | error f => rfl
  | ok p =>
    rw [requestOf?_ok]
    cases hr : requestOf p with
    | error f =>
      rw [attempt_refused hr]
      rfl
    | ok r =>
      rw [attempt_made hr]
      exact List.drop_one.symm

namespace Service

variable (s : Service) (x : Step)

theorem step_update (given : List (Given ServiceConfig)) :
    s.step (.update given) =
      match updated given with
      | .ok c => (⟨.ok (), none, [.updated c.enabled]⟩, { s with config := c })
      | .error f => (.failed f, s) := rfl

theorem outcome_update (given : List (Given ServiceConfig)) :
    (s.step (.update given)).1.outcome = .ok () ↔ ∃ c, given = [.fit c] := by
  rw [step_update]
  simp only [← updated_eq_ok_iff]
  cases updated given with
  | ok c => exact ⟨fun _ => ⟨c, rfl⟩, fun _ => rfl⟩
  | error f =>
    constructor
    · rintro ⟨⟩
    · rintro ⟨c, ⟨⟩⟩

theorem step_config : (s.step x).2.config = x.accepted?.getD s.config := by
  cases x with
  | update given =>
    rw [step_update, accepted?_update]
    cases updated given <;> rfl
  | alert url o h => rfl
  | handle e h context => rfl
  | test options => rfl
  | connect => rfl
  | disconnect => rfl

/-- A step that has something to send attempts to send that. -/
theorem step_sends {p : Except Failure Post} (hp : x.preparation? s.config = some p) :
    (s.step x).1.exchange = (attempt p s.replies).1.exchange ∧
      (s.step x).2.replies = (attempt p s.replies).2 := by
  cases x with
  | alert url o h =>
    cases hp
    exact ⟨rfl, rfl⟩
  | handle e h context =>
    cases hp
    have ha : (s.step (.handle e h context)).1 = (handle s.config e h context s.replies).1 := rfl
    have hr : (s.step (.handle e h context)).2.replies =
        (handle s.config e h context s.replies).2 := rfl
    rw [ha, hr, handle_eq]
    exact ⟨exchange_handled _ e context, rfl⟩
  | test options =>
    cases options with
    | fit o =>
      cases hp
      exact ⟨rfl, rfl⟩
    | other v => cases hp
  | update given => cases hp
  | connect => cases hp
  | disconnect => cases hp

theorem step_sends_nothing (hp : x.preparation? s.config = none) :
    (s.step x).1.exchange = none ∧ (s.step x).2.replies = s.replies := by
  cases x with
  | alert url o h => cases hp
  | handle e h context => cases hp
  | test options =>
    cases options with
    | fit o => cases hp
    | other v => exact ⟨rfl, rfl⟩
  | update given =>
    rw [step_update]
    cases updated given <;> exact ⟨rfl, rfl⟩
  | connect => exact ⟨rfl, rfl⟩
  | disconnect => exact ⟨rfl, rfl⟩

theorem step_request? : (s.step x).1.request? = x.request? s.config := by
  unfold Attempt.request? Step.request?
  cases hp : x.preparation? s.config with
  | none =>
    rw [(s.step_sends_nothing x hp).1]
    rfl
  | some p =>
    rw [(s.step_sends x hp).1]
    exact request?_attempt p s.replies

theorem step_replies :
    (s.step x).2.replies = s.replies.drop (x.request? s.config).toList.length := by
  unfold Step.request?
  cases hp : x.preparation? s.config with
  | none => exact (s.step_sends_nothing x hp).2
  | some p => exact (s.step_sends x hp).2.trans (replies_attempt p s.replies)

end Service

end AlertRelay.Delivery
