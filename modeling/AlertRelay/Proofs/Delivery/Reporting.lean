import AlertRelay.Proofs.Delivery.Outcome
import AlertRelay.Proofs.Delivery.Preparation
import AlertRelay.Proofs.Log.Entry

/-!
What a handler makes of an alert. A failure of the delivery is reported once and dropped, but for
the failures that pass through the handler.
-/

namespace AlertRelay.Delivery

open AlertRelay.Alert AlertRelay.Config

def Fault.isBreakdown : Fault → Bool
  | .breakdown .. => true
  | .accident .. => false

/-- Whether nothing but the exchange itself goes wrong in a reply. -/
def Reply.isOrdinary : Reply → Bool
  | .answer _ (.ok _) _ => true
  | .answer _ (.error f) _ => f.isBreakdown
  | .fault f _ => f.isBreakdown

/-- The server said that it took the event. -/
def Attempt.IsTaken (a : Attempt) : Prop :=
  ∃ r x, a.exchange = some ⟨r, some x⟩ ∧ x.status = created

/-- How an attempt ends: the server took the event and that was logged, or the attempt failed and
nothing was logged. -/
inductive Attempt.Ends (a : Attempt) : Prop where
  | taken {u} (outcome : a.outcome = .ok ()) (taken : a.IsTaken) (notices : a.notices = [.sent u])
  | failed {f} (outcome : a.outcome = .error f) (taken : ¬ a.IsTaken) (notices : a.notices = [])

theorem ends_failed (f : Failure) : (Attempt.failed f).Ends := by
  refine .failed rfl ?_ rfl
  rintro ⟨r, x, ⟨⟩, -⟩

theorem ends_of_send (p : Post) (r : Request) (reply : Reply) : (send p r reply).Ends := by
  cases reply with
  | fault f headers =>
    refine .failed rfl ?_ rfl
    rintro ⟨_, _, ⟨⟩, -⟩
  | answer status body headers =>
    by_cases hs : status = created
    · subst hs
      exact .taken rfl ⟨r, _, rfl, rfl⟩ rfl
    · cases body with
      | ok bytes =>
        rw [send_readable p r bytes headers hs]
        refine .failed rfl ?_ rfl
        rintro ⟨_, _, ⟨⟩, ht⟩
        exact hs ht
      | error f =>
        rw [send_unreadable p r f headers hs]
        refine .failed rfl ?_ rfl
        rintro ⟨_, _, ⟨⟩, ht⟩
        exact hs ht

theorem ends_of_attempt (p : Except Failure Post) (replies : Replies) :
    (attempt p replies).1.Ends := by
  cases p with
  | error f => exact ends_failed f
  | ok p =>
    cases hq : requestOf p with
    | error f =>
      rw [attempt_refused hq]
      exact ends_failed f
    | ok r =>
      rw [attempt_made hq]
      exact ends_of_send p r _

/-- An attempt whose failure was reported and dropped. -/
def Attempt.dropped (a : Attempt) (report : Notice) : Attempt :=
  { a with outcome := .ok (), notices := a.notices ++ [report] }

def Attempt.errorEntries (a : Attempt) : List Log.Entry :=
  (a.notices.map Notice.fullEntry).filter (·.level = .error)

/-- An entry that tells of an alert that was not delivered. -/
structure IsReport (id : String) (e : Log.Entry) : Prop where
  level : e.level = .error
  event : e.fields.lookup "event" = some (.text "servicenow_send_failed")
  alert : e.fields.lookup "alert_id" = some (.text id)

/-- The failures that pass through a handler: a host of the web that stands for no name, a number of
too many digits in a template, and a prepared URL that the client does not take. -/
inductive Escapes (c : ServiceConfig) (url : String) (o : Occurrence) (h : HandlerConfig) :
    Failure → Prop where
  | name {u e} (enabled : c.enabled = true) (parse : Url.parse (urlOf c url) = .ok u)
      (web : u.isWeb = true) (flaw : u.checkHost = .error e) :
      Escapes c url o h (.endpoint (.host e))
  | limit {u l} (enabled : c.enabled = true) (web : IsWebUrl (urlOf c url) u)
      (first : (templateFailures h (dataOf o)).findSome? id = some (.limit l)) :
      Escapes c url o h (.template (.limit l))
  | address {p f} (prepared : prepare c url o h = .ok p) (flaw : Url.parse p.url = .error f) :
      Escapes c url o h (.address f)
  | host {p u pos run} (prepared : prepare c url o h = .ok p) (parse : Url.parse p.url = .ok u)
      (foreign : Text.foreignRun? u.hostText = some (pos, run)) : Escapes c url o h (.host pos run)

variable {c : ServiceConfig} {url : String} {o : Occurrence} {h : HandlerConfig} {f : Failure}

theorem isReported_of_escapes (he : Escapes c url o h f) : f.isReported = false := by
  cases he <;> rfl

theorem alert_of_escapes (he : Escapes c url o h f) (replies : Replies) :
    alert c url o h replies = (.failed f, replies) := by
  unfold alert
  cases he with
  | name hc hp hw hf =>
    have hu := endpoint_eq_host_iff.mpr ⟨_, hp, hw, hf⟩
    rw [(Prepares.endpoint hc hu).prepare_eq, attempt_failed]
  | limit hc hw hf => rw [(Prepares.template hc hw hf).prepare_eq, attempt_failed]
  | address hp hf => rw [hp, attempt_refused (requestOf_of_flaw hf)]
  | host hp hu hf => rw [hp, attempt_refused (requestOf_of_foreign hu hf)]

theorem escapes_of_prepare (hp : prepare c url o h = .error f) (hr : f.isReported = false) :
    Escapes c url o h f := by
  have hs := prepares_prepare c url o h
  rw [hp] at hs
  cases hs with
  | disabled hc => cases hr
  | @endpoint e hc hu =>
    cases e with
    | host e =>
      obtain ⟨u, hp, hw, hf⟩ := endpoint_eq_host_iff.mp hu
      exact .name hc hp hw hf
    | flaw raw e => cases hr
    | notWeb raw => cases hr
  | @template u t hc hw hf =>
    cases t with
    | limit l => exact .limit hc hw hf
    | compile e => cases hr
    | exec e => cases hr

theorem escapes_of_requestOf {p : Post} (hp : prepare c url o h = .ok p)
    (hq : requestOf p = .error f) : Escapes c url o h f := by
  cases hu : Url.parse p.url with
  | error e =>
    rw [requestOf_of_flaw hu] at hq
    cases hq
    exact .address hp hu
  | ok u =>
    cases hf : Text.foreignRun? u.hostText with
    | some found =>
      rw [requestOf_of_foreign hu hf] at hq
      cases hq
      exact .host hp hu hf
    | none =>
      unfold requestOf at hq
      rw [hu] at hq
      dsimp only at hq
      rw [hf] at hq
      cases hq

/-- What came of an alert that was sent, or failed to be, while nothing but the exchange itself went
wrong. -/
inductive Comes (c : ServiceConfig) (url : String) (o : Occurrence) (h : HandlerConfig) :
    Attempt → Prop where
  | taken {a u} (outcome : a.outcome = .ok ()) (taken : a.IsTaken)
      (notices : a.notices = [.sent u]) : Comes c url o h a
  | failed {a f} (outcome : a.outcome = .error f) (taken : ¬ a.IsTaken) (notices : a.notices = [])
      (escapes : f.isReported = false → Escapes c url o h f) : Comes c url o h a

theorem comes_failed (he : f.isReported = false → Escapes c url o h f) :
    Comes c url o h (.failed f) := by
  refine .failed rfl ?_ rfl he
  rintro ⟨r, x, ⟨⟩, -⟩

theorem isReported_of_isBreakdown {f : Fault} (hf : f.isBreakdown = true) :
    f.failure.isReported = true := by
  cases f with
  | breakdown sort m => rfl
  | accident sort m => cases hf

theorem isReported_of_send (p : Post) (r : Request) {reply : Reply}
    (hr : reply.isOrdinary = true) (ho : (send p r reply).outcome = .error f) :
    f.isReported = true := by
  cases reply with
  | fault g headers =>
    cases ho
    exact isReported_of_isBreakdown hr
  | answer status body headers =>
    by_cases hs : status = created
    · subst hs
      cases ho
    · cases body with
      | ok bytes =>
        rw [send_readable p r bytes headers hs] at ho
        cases ho
        rfl
      | error g =>
        rw [send_unreadable p r g headers hs] at ho
        cases ho
        exact isReported_of_isBreakdown hr

theorem comes_of_send (p : Post) (r : Request) {reply : Reply} (hr : reply.isOrdinary = true) :
    Comes c url o h (send p r reply) := by
  cases ends_of_send p r reply with
  | taken ho ht hn => exact .taken ho ht hn
  | failed ho ht hn =>
    have hf := isReported_of_send p r hr ho
    exact .failed ho ht hn fun h => absurd (hf.symm.trans h) (by decide)

theorem next_isOrdinary {replies : Replies} (hr : ∀ r ∈ replies, r.isOrdinary = true) :
    replies.next.1.isOrdinary = true := by
  cases replies with
  | nil => rfl
  | cons reply rest => exact hr reply List.mem_cons_self

theorem comes_of_alert {replies : Replies} (hr : ∀ r ∈ replies, r.isOrdinary = true) :
    Comes c url o h (alert c url o h replies).1 := by
  unfold alert
  cases hp : prepare c url o h with
  | error f => exact comes_failed (escapes_of_prepare hp)
  | ok p =>
    cases hq : requestOf p with
    | error f =>
      rw [attempt_refused hq]
      exact comes_failed fun _ => escapes_of_requestOf hp hq
    | ok r =>
      rw [attempt_made hq]
      exact comes_of_send p r (next_isOrdinary hr)

/-- What the log is bound to hides neither what happened nor to which alert. -/
theorem isReport_notSent (context : Log.Fields) (id level : String) (f : Failure) :
    IsReport id (Notice.notSent context id level f).fullEntry where
  level := rfl
  event := by
    dsimp only [Notice.fullEntry, Notice.notSent, Log.Entry.of]
    rw [Log.lookup_put_of_ne (by decide), Log.lookup_put_self]
  alert := by
    dsimp only [Notice.fullEntry, Notice.notSent, Log.Entry.of, Log.putAll, List.foldl]
    rw [Log.lookup_put_of_ne (by decide), Log.lookup_put_of_ne (by decide),
      Log.lookup_put_of_ne (by decide), Log.lookup_put_self]

theorem handle_of_ok {e : Event} {context : Log.Fields} {replies : Replies}
    (ho : (alert c h.url e.occurrence h replies).1.outcome = .ok ()) :
    handle c e h context replies = alert c h.url e.occurrence h replies := by
  unfold handle
  dsimp only
  rw [ho]

theorem handle_of_reported {e : Event} {context : Log.Fields} {replies : Replies}
    (ho : (alert c h.url e.occurrence h replies).1.outcome = .error f)
    (hf : f.isReported = true) :
    (handle c e h context replies).1 = (alert c h.url e.occurrence h replies).1.dropped
      (.notSent context e.state.id e.state.level.name f) := by
  unfold handle
  dsimp only
  rw [ho]
  dsimp only
  rw [if_pos hf]
  rfl

theorem handle_of_passed {e : Event} {context : Log.Fields} {replies : Replies}
    (ho : (alert c h.url e.occurrence h replies).1.outcome = .error f)
    (hf : f.isReported = false) :
    handle c e h context replies = alert c h.url e.occurrence h replies := by
  unfold handle
  dsimp only
  rw [ho]
  dsimp only
  rw [if_neg (by rw [hf]; decide)]

/-- What comes of an event that a handler was given. -/
structure Handled (c : ServiceConfig) (e : Event) (h : HandlerConfig) (a : Attempt) : Prop where
  escaped : ∀ f, a.outcome = .error f ↔ Escapes c h.url e.occurrence h f
  taken : a.IsTaken → a.outcome = .ok () ∧ a.errorEntries = []
  reported : ¬ a.IsTaken → a.outcome = .ok () →
    ∃ n, a.errorEntries = [n] ∧ IsReport e.state.id n

theorem outcome_of_escapes (he : Escapes c url o h f) (replies : Replies) :
    (alert c url o h replies).1.outcome = .error f := by
  rw [alert_of_escapes he]
  rfl

theorem handled_taken {e : Event} {a : Attempt} {u : String} (ho : a.outcome = .ok ())
    (ht : a.IsTaken) (hn : a.notices = [.sent u])
    (hne : ∀ f, ¬ Escapes c h.url e.occurrence h f) : Handled c e h a := by
  refine ⟨fun f => ⟨fun hf => ?_, fun he => absurd he (hne f)⟩, fun _ => ⟨ho, ?_⟩,
    fun hf => absurd ht hf⟩
  · rw [ho] at hf
    cases hf
  · unfold Attempt.errorEntries
    rw [hn]
    rfl

theorem handled_dropped {e : Event} {a : Attempt} (context : Log.Fields) (f : Failure)
    (ht : ¬ a.IsTaken) (hn : a.notices = []) (hne : ∀ g, ¬ Escapes c h.url e.occurrence h g) :
    Handled c e h (a.dropped (.notSent context e.state.id e.state.level.name f)) := by
  refine ⟨fun g => ⟨by rintro ⟨⟩, fun he => absurd he (hne g)⟩, fun h => absurd h ht, fun _ _ => ?_⟩
  refine ⟨_, ?_, isReport_notSent context e.state.id e.state.level.name f⟩
  unfold Attempt.errorEntries Attempt.dropped
  rw [hn]
  rfl

theorem handled_passed {e : Event} {a : Attempt} (ho : a.outcome = .error f) (ht : ¬ a.IsTaken)
    (hf : Escapes c h.url e.occurrence h f)
    (hg : ∀ g, Escapes c h.url e.occurrence h g → a.outcome = .error g) : Handled c e h a := by
  refine ⟨fun g => ⟨fun ho' => ?_, hg g⟩, fun h => absurd h ht, fun _ ho' => ?_⟩
  · rw [ho] at ho'
    cases ho'
    exact hf
  · rw [ho] at ho'
    cases ho'

/-- While nothing but the exchange itself goes wrong, a failure gets out of a handler exactly if it
is one that `Escapes` names. Any other alert that is not taken leaves one report of it in the log,
and one that is taken leaves none. Answers nested beyond the reader's stack and widths beyond memory
are left aside. -/
theorem handle_reports (c : ServiceConfig) (e : Event) (h : HandlerConfig) (context : Log.Fields)
    (replies : Replies) (hr : ∀ r ∈ replies, r.isOrdinary = true) :
    Handled c e h (handle c e h context replies).1 := by
  have hout : ∀ g, Escapes c h.url e.occurrence h g →
      (alert c h.url e.occurrence h replies).1.outcome = .error g :=
    fun g he => outcome_of_escapes he replies
  have hc : Comes c h.url e.occurrence h (alert c h.url e.occurrence h replies).1 :=
    comes_of_alert hr
  cases hc with
  | taken ho ht hn =>
    rw [handle_of_ok ho]
    refine handled_taken ho ht hn fun f he => ?_
    have hf := hout f he
    rw [ho] at hf
    cases hf
  | @failed f ho ht hn hesc =>
    cases hf : f.isReported with
    | true =>
      rw [handle_of_reported ho hf]
      refine handled_dropped context f ht hn fun g he => ?_
      have hg := hout g he
      rw [ho] at hg
      cases hg
      rw [isReported_of_escapes he] at hf
      cases hf
    | false =>
      rw [handle_of_passed ho hf]
      exact handled_passed ho ht (hesc hf) hout

theorem handle_reports_rejected :
    (∀ r ∈ [Reply.answer 503 (.ok [])], r.isOrdinary = true) ∧
      Handled { ServiceConfig.default with enabled := true } ⟨⟨"z", "", .ok⟩, .empty⟩ .empty
        (handle { ServiceConfig.default with enabled := true } ⟨⟨"z", "", .ok⟩, .empty⟩ .empty []
          [.answer 503 (.ok [])]).1 :=
  ⟨by decide, handle_reports _ _ _ _ _ (by decide)⟩

/-- A host that stands for no name makes a handler fail, and nothing tells of it. -/
theorem handle_unnamed_host :
    let a := (handle { ServiceConfig.default with enabled := true } ⟨⟨"z", "", .ok⟩, .empty⟩
      { HandlerConfig.empty with url := "http://xn--/" } [] []).1
    a.outcome = .error (.endpoint (.host .noContent)) ∧ a.errorEntries = [] :=
  ⟨rfl, rfl⟩

end AlertRelay.Delivery
