import AlertRelay.Delivery.Service
import AlertRelay.Proofs.Delivery.Authorization
import Mathlib.Data.List.TakeWhile

/-!
What comes of an alert: one request at most, the outcome that the answer to it means, and every
answer closed in the end.
-/

namespace AlertRelay.Delivery

open AlertRelay.Alert AlertRelay.Config AlertRelay.Text

/-- A request made of a prepared one. -/
structure Carries (p : Post) (r : Request) : Prop where
  url : Url.parse p.url = .ok r.url
  body : r.body = p.body
  timeout : r.timeout = p.timeout
  /-- The prepared credentials go with it, and no others unless the URL holds some of its own. -/
  credentials : p.credentials ≠ none ∨ ownCredentials r.url = none →
    Authorizes p.credentials r.authorization

/-- A request with all that the client adds to what was prepared: where no credentials were
prepared, those that the URL holds go with it. -/
structure Completes (p : Post) (r : Request) : Prop extends Carries p r where
  own : p.credentials = none → Authorizes (ownCredentials r.url) r.authorization

/-- What came of the one request that was made of `p`, and got `reply`. -/
structure Settled (p : Post) (r : Request) (reply : Reply) (a : Attempt) : Prop where
  completes : Completes p r
  answered : ∀ status body headers, reply = .answer status body headers →
    ∃ x, a.exchange = some ⟨r, some x⟩ ∧ x.status = status ∧ x.isClosed = true
  unanswered : ∀ f headers, reply = .fault f headers → a.exchange = some ⟨r, none⟩
  taken : a.outcome = .ok () ↔ ∃ body headers, reply = .answer 201 body headers
  rejected : ∀ status bytes headers, reply = .answer status (.ok bytes) headers →
    status ≠ 201 → a.outcome = .error (.rejected status (String.ofList (Utf8.decode bytes)))
  unreadable : ∀ status sort m headers,
    reply = .answer status (.error (.breakdown sort m)) headers →
      status ≠ 201 → a.outcome = .error (.connection sort m)
  broken : ∀ sort m headers, reply = .fault (.breakdown sort m) headers →
    a.outcome = .error (.connection sort m)

/-- The status that a reply gives, if it is an answer. -/
def Reply.status? : Reply → Option Nat
  | .answer status _ _ => some status
  | .fault _ _ => none

/-- The reply that comes next. After the last one every event is taken. -/
def nextReply (replies : Replies) : Reply := replies.headD (.answer 201 (.ok []))

theorem next_fst (replies : Replies) : replies.next.1 = nextReply replies := by
  cases replies <;> rfl

theorem requestOf_of_flaw {p : Post} {e : Url.Flaw} (hp : Url.parse p.url = .error e) :
    requestOf p = .error (.address e) := by
  unfold requestOf
  rw [hp]

theorem requestOf_of_foreign {p : Post} {u : Url} {pos : Nat} {run : List Char}
    (hp : Url.parse p.url = .ok u) (hf : foreignRun? u.hostText = some (pos, run)) :
    requestOf p = .error (.host pos run) := by
  unfold requestOf
  rw [hp]
  dsimp only
  rw [hf]

theorem completes_of_requestOf {p : Post} {r : Request} (h : requestOf p = .ok r) :
    Completes p r := by
  unfold requestOf at h
  split at h
  · cases h
  · next u hu =>
    split at h
    · cases h
    · cases h
      exact ⟨⟨hu, rfl, rfl, authorizes_or.1⟩, authorizes_or.2⟩

theorem foreignRun?_eq_none_iff {cs : List Char} :
    foreignRun? cs = none ↔ ∀ c ∈ cs, isAscii c = true := by
  unfold foreignRun?
  cases hcs : cs.dropWhile isAscii with
  | nil => simpa using List.dropWhile_eq_nil_iff.mp hcs
  | cons c rest =>
    refine iff_of_false (by simp) fun h => ?_
    rw [List.dropWhile_eq_nil_iff.mpr h] at hcs
    cases hcs

/-- The client makes a request of what it can read, if the host can be written. -/
theorem exists_requestOf_iff {p : Post} {u : Url} :
    (∃ r, requestOf p = .ok r ∧ r.url = u) ↔
      Url.parse p.url = .ok u ∧ ∀ c ∈ u.hostText, isAscii c = true := by
  constructor
  · rintro ⟨r, hr, rfl⟩
    have hparse := (completes_of_requestOf hr).url
    refine ⟨hparse, foreignRun?_eq_none_iff.mp ?_⟩
    cases hf : foreignRun? r.url.hostText with
    | none => rfl
    | some run =>
      rw [requestOf_of_foreign hparse hf] at hr
      cases hr
  · rintro ⟨hparse, hascii⟩
    have hf := foreignRun?_eq_none_iff.mpr hascii
    refine ⟨⟨u, p.authorization.or (urlAuthorization u), p.timeout, p.body⟩, ?_, rfl⟩
    simp only [requestOf, hparse, hf]

theorem send_readable {status : Nat} (p : Post) (r : Request) (bytes : List Nat)
    (headers : Headers) (hs : status ≠ created) : send p r (.answer status (.ok bytes) headers) =
      ⟨.error (.rejected status (String.ofList (Utf8.decode bytes))),
        some ⟨r, some ⟨status, .ok bytes, true, true⟩⟩, []⟩ := by
  simp [send, Answer.use, settle, Answer.opened, Answer.read, hs]

theorem send_unreadable {status : Nat} (p : Post) (r : Request) (f : Fault)
    (headers : Headers) (hs : status ≠ created) : send p r (.answer status (.error f) headers) =
      ⟨.error f.failure, some ⟨r, some ⟨status, .error f, true, true⟩⟩, []⟩ := by
  simp [send, Answer.use, settle, Answer.opened, Answer.read, hs]

theorem settled_fault {p : Post} {r : Request} (hc : Completes p r) (f : Fault)
    (headers : Headers) : Settled p r (.fault f headers) (send p r (.fault f headers)) where
  completes := hc
  answered := by
    rintro status body headers ⟨⟩
  unanswered := fun _ _ _ => rfl
  taken := by
    constructor
    · rintro ⟨⟩
    · rintro ⟨body, headers, ⟨⟩⟩
  rejected := by
    rintro status bytes headers ⟨⟩
  unreadable := by
    rintro status sort m headers ⟨⟩
  broken := by
    rintro sort m headers ⟨⟩
    rfl

theorem settled_created {p : Post} {r : Request} (hc : Completes p r)
    (body : Except Fault (List Nat)) (headers : Headers) :
    Settled p r (.answer created body headers) (send p r (.answer created body headers)) where
  completes := hc
  answered := by
    rintro status body headers ⟨⟩
    exact ⟨_, rfl, rfl, rfl⟩
  unanswered := by
    rintro f headers ⟨⟩
  taken := ⟨fun _ => ⟨body, headers, rfl⟩, fun _ => rfl⟩
  rejected := by
    rintro status bytes headers ⟨⟩ hs
    contradiction
  unreadable := by
    rintro status sort m headers ⟨⟩ hs
    contradiction
  broken := by
    rintro sort m headers ⟨⟩

theorem settled_other {p : Post} {r : Request} (hc : Completes p r) {status : Nat}
    (hs : status ≠ created) (body : Except Fault (List Nat)) (headers : Headers) :
    Settled p r (.answer status body headers) (send p r (.answer status body headers)) where
  completes := hc
  answered := by
    rintro status body headers ⟨⟩
    cases body with
    | ok bytes =>
      exact ⟨_, congrArg Attempt.exchange (send_readable p r bytes headers hs), rfl, rfl⟩
    | error f =>
      exact ⟨_, congrArg Attempt.exchange (send_unreadable p r f headers hs), rfl, rfl⟩
  unanswered := by
    rintro f headers ⟨⟩
  taken := by
    constructor
    · intro h
      cases body with
      | ok bytes =>
        rw [send_readable p r bytes headers hs] at h
        cases h
      | error f =>
        rw [send_unreadable p r f headers hs] at h
        cases h
    · rintro ⟨body, headers, ⟨⟩⟩
      contradiction
  rejected := by
    rintro status bytes headers ⟨⟩ hs
    rw [send_readable p r bytes headers hs]
  unreadable := by
    rintro status sort m headers ⟨⟩ hs
    rw [send_unreadable p r _ headers hs]
    rfl
  broken := by
    rintro sort m headers ⟨⟩

theorem send_settled {p : Post} {r : Request} (hc : Completes p r) (reply : Reply) :
    Settled p r reply (send p r reply) := by
  cases reply with
  | fault f headers => exact settled_fault hc f headers
  | answer status body headers =>
    by_cases hs : status = created
    · rw [hs]
      exact settled_created hc body headers
    · exact settled_other hc hs body headers

theorem attempt_failed (f : Failure) (replies : Replies) :
    attempt (.error f) replies = (.failed f, replies) := rfl

theorem attempt_refused {p : Post} {f : Failure} (h : requestOf p = .error f)
    (replies : Replies) : attempt (.ok p) replies = (.failed f, replies) := by
  simp only [attempt, h]

theorem attempt_made {p : Post} {r : Request} (h : requestOf p = .ok r) (replies : Replies) :
    attempt (.ok p) replies = (send p r replies.next.1, replies.tail) := by
  simp only [attempt, h]
  cases replies with
  | nil => rfl
  | cons reply rest => rfl

/-- A request is made of what was prepared, and meets the next reply. -/
theorem exists_of_exchange {p : Except Failure Post} {replies : Replies} {x : Exchange}
    (h : (attempt p replies).1.exchange = some x) :
    ∃ q, p = .ok q ∧ Carries q x.request ∧
      x.answer.map Answer.status = replies.next.1.status? := by
  cases p with
  | error f => cases h
  | ok q =>
    refine ⟨q, rfl, ?_⟩
    cases hq : requestOf q with
    | error f =>
      rw [attempt_refused hq] at h
      cases h
    | ok r =>
      rw [attempt_made hq] at h
      have hs := send_settled (completes_of_requestOf hq) replies.next.1
      cases hreply : replies.next.1 with
      | fault f headers =>
        rw [hs.unanswered f headers hreply] at h
        cases h
        exact ⟨hs.completes.toCarries, rfl⟩
      | answer status body headers =>
        obtain ⟨y, hy, hstatus, -⟩ := hs.answered status body headers hreply
        rw [hy] at h
        cases h
        exact ⟨hs.completes.toCarries, congrArg some hstatus⟩

/-- An alert that cannot be prepared, or that the client makes no request of, leaves the service as
it was. Otherwise it takes exactly one of the replies that are to come, and what comes of the alert
is what that reply means. The client makes a request if it can read the URL and the host is in
ASCII. Answers nested beyond the reader's stack and widths beyond memory are left aside. -/
theorem alert_settled (s : Service) (url : String) (o : Occurrence) (h : HandlerConfig) :
    (match prepare s.config url o h with
      | .error f => s.step (.alert url o h) = (.failed f, s)
      | .ok p =>
        match requestOf p with
        | .error f => s.step (.alert url o h) = (.failed f, s)
        | .ok r =>
          ∃ a, s.step (.alert url o h) = (a, { s with replies := s.replies.tail }) ∧
            Settled p r (nextReply s.replies) a) ∧
      ∀ p u, (∃ r, requestOf p = .ok r ∧ r.url = u) ↔
        Url.parse p.url = .ok u ∧ ∀ c ∈ u.hostText, isAscii c = true := by
  refine ⟨?_, fun p u => exists_requestOf_iff⟩
  have hstep : s.step (.alert url o h) =
      ((attempt (prepare s.config url o h) s.replies).1,
        { s with replies := (attempt (prepare s.config url o h) s.replies).2 }) := rfl
  rw [hstep]
  cases prepare s.config url o h with
  | error f => rw [attempt_failed]
  | ok p =>
    dsimp only
    cases hr : requestOf p with
    | error f => rw [attempt_refused hr]
    | ok r =>
      rw [attempt_made hr, next_fst]
      exact ⟨_, rfl, send_settled (completes_of_requestOf hr) _⟩

/-- An alert without credentials is not sent without any, if its URL holds a user and a password. -/
theorem own_credentials_sent :
    let c := { ServiceConfig.default with enabled := true }
    let p := prepare c "http://u:p@sn.example/" ⟨"a1", "m", 3, .empty⟩ .empty
    p.toOption.map Post.credentials = some none ∧
      (attempt p []).1.exchange.map (·.request.authorization) = some (some "Basic dTpw") :=
  ⟨by decide +kernel, by decide +kernel⟩

end AlertRelay.Delivery
