import AlertRelay.Proofs.Delivery.Sending

/-!
A service together with its client. While a connection is kept open all requests go through one
client, which adds the cookies that it was given; otherwise each alert opens a client of its own and
closes it again. But for the cookies both ways come to the same, as a client that was closed is
never used again.
-/

namespace AlertRelay.Delivery

open AlertRelay.Alert AlertRelay.Config AlertRelay.Text

/-- A request of a client: when it was made, where to, and the lines at the head of the answer. Time
is counted in steps of the service. -/
structure Visit where
  moment : Nat
  url : Url
  headers : Headers

def setsCookie (hs : Headers) : Bool :=
  hs.any fun h => lowerAscii h.1.toList == "set-cookie".toList

/-- Which cookies go with a request to a URL at a moment, after some visits. There are none unless
one of these sets some. -/
structure CookieRules where
  header : List Visit → Nat → Url → Option String
  header_eq_none : ∀ visits moment u, (∀ v ∈ visits, setsCookie v.headers = false) →
    header visits moment u = none

/-- A client of the web is opened by its first request at the latest. -/
inductive Phase where
  | fresh
  | opened
  | closed
  deriving DecidableEq

/-- A client of the web, with the visits that its cookies come from. -/
structure Client where
  phase : Phase
  visits : List Visit

namespace Client

def fresh : Client := ⟨.fresh, []⟩

/-- Opens a client for the block that uses it. -/
def enter (k : Client) : Except Failure Client :=
  match k.phase with
  | .fresh => .ok { k with phase := .opened }
  | .opened => .error (.accident .program "Cannot open a client instance more than once.")
  | .closed =>
    .error (.accident .program "Cannot reopen a client instance, once it has been closed.")

/-- What a request and the reply to it leave behind in a client. -/
def visit (k : Client) (moment : Nat) (r : Request) (reply : Reply) : Client :=
  ⟨.opened, k.visits ++ [⟨moment, r.url, reply.headers⟩]⟩

/-- Sends what was prepared. The request is made up before it shows that the client is closed. -/
def attempt (k : Client) (moment : Nat) (p : Post) (replies : Replies) :
    Attempt × Client × Replies :=
  match requestOf p with
  | .error f => (.failed f, k, replies)
  | .ok r =>
    match k.phase with
    | .closed =>
      (.failed (.accident .program "Cannot send a request, as the client has been closed."), k,
        replies)
    | .fresh | .opened => (send p r replies.next.1, k.visit moment r replies.next.1, replies.next.2)

theorem next_snd (replies : Replies) : replies.next.2 = replies.tail := by
  cases replies <;> rfl

variable {k : Client} {p : Post} (moment : Nat)

theorem attempt_refused {f : Failure} (hr : requestOf p = .error f) (k : Client)
    (replies : Replies) : k.attempt moment p replies = (.failed f, k, replies) := by
  unfold attempt
  rw [hr]

theorem attempt_made {r : Request} (hr : requestOf p = .ok r) (hk : k.phase ≠ .closed)
    (replies : Replies) :
    k.attempt moment p replies =
      (send p r replies.next.1, k.visit moment r replies.next.1, replies.tail) := by
  unfold attempt
  rw [hr, ← next_snd]
  dsimp only
  cases hp : k.phase with
  | closed => contradiction
  | fresh => rfl
  | opened => rfl

/-- A client that was not closed sends as if it were new, and is not closed by it. -/
theorem attempt_eq (hk : k.phase ≠ .closed) (p : Post) (replies : Replies) :
    ∃ k' : Client, k'.phase ≠ .closed ∧ k.attempt moment p replies =
      ((Delivery.attempt (.ok p) replies).1, k', (Delivery.attempt (.ok p) replies).2) := by
  cases hr : requestOf p with
  | error f =>
    rw [attempt_refused moment hr, Delivery.attempt_refused hr]
    exact ⟨k, hk, rfl⟩
  | ok r =>
    rw [attempt_made moment hr hk, Delivery.attempt_made hr]
    exact ⟨k.visit moment r replies.next.1, nofun, rfl⟩

end Client

/-- A request with the cookies that its client adds to it. -/
structure Sent where
  request : Request
  cookies : Option String

/-- A service and the client that it keeps, if there is one. -/
structure Keeper where
  config : ServiceConfig
  client : Option Client
  replies : Replies
  moment : Nat

namespace Keeper

def start (c : ServiceConfig) (replies : Replies) : Keeper := ⟨c, none, replies, 0⟩

/-- A client that was closed is no connection. -/
def isConnected (s : Keeper) : Bool :=
  match s.client.map Client.phase with
  | none | some .closed => false
  | some .fresh | some .opened => true

/-- Sends an alert through the client that is kept, or else through a new one, which is closed and
gone afterwards. -/
def alert (s : Keeper) (url : String) (o : Occurrence) (h : HandlerConfig) : Attempt × Keeper :=
  match prepare s.config url o h with
  | .error f => (.failed f, s)
  | .ok p =>
    match s.client with
    | some k =>
      let (a, k, replies) := k.attempt s.moment p s.replies
      (a, { s with client := some k, replies })
    | none =>
      match Client.fresh.enter with
      | .error f => (.failed f, s)
      | .ok k =>
        let (a, _, replies) := k.attempt s.moment p s.replies
        (a, { s with replies })

/-- Does one thing. A client that is kept already is not replaced. -/
def act (s : Keeper) : Step → Attempt × Keeper
  | .alert url o h => s.alert url o h
  | .handle e h context =>
    let (a, s) := s.alert h.url e.occurrence h
    (a.handled e context, s)
  | .test (.fit o) => s.alert s.config.url o.occurrence o.handler
  | .test (.other v) => (.failed (.notOptions v), s)
  | .update given =>
    match updated given with
    | .ok c => (⟨.ok (), none, [.updated c.enabled]⟩, { s with config := c })
    | .error f => (.failed f, s)
  | .connect => (⟨.ok (), none, []⟩, { s with client := some (s.client.getD .fresh) })
  | .disconnect => (⟨.ok (), none, []⟩, { s with client := none })

def step (s : Keeper) (x : Step) : Attempt × Keeper :=
  let (a, t) := s.act x
  (a, { t with moment := s.moment + 1 })

def run (s : Keeper) : List Step → List Attempt × Keeper
  | [] => ([], s)
  | x :: rest =>
    let (a, s) := s.step x
    let (as, s) := s.run rest
    (a :: as, s)

/-- What a step sends. An alert without a client that is kept goes through a new one. -/
def sent? (rules : CookieRules) (s : Keeper) (x : Step) : Option Sent :=
  (s.step x).1.request?.map fun r =>
    ⟨r, rules.header (s.client.getD .fresh).visits s.moment r.url⟩

def sent (rules : CookieRules) (s : Keeper) : List Step → List (Option Sent)
  | [] => []
  | x :: rest => s.sent? rules x :: (s.step x).2.sent rules rest

/-- What can be seen of the client from outside. -/
def shown (s : Keeper) : Service := ⟨s.config, s.isConnected, s.replies⟩

/-- No client is kept beyond its end. -/
def IsLive (s : Keeper) : Prop := ∀ k ∈ s.client, k.phase ≠ .closed

theorem isLive_start (c : ServiceConfig) (replies : Replies) : (start c replies).IsLive := nofun

/-- What is done in one step with a client is what is done without. -/
structure Follows (s : Keeper) (x : Step) (done : Attempt × Keeper) : Prop where
  attempt : done.1 = (s.shown.step x).1
  shown : done.2.shown = (s.shown.step x).2
  live : done.2.IsLive

variable {s : Keeper}

theorem isConnected_of_some {k : Client} (hs : s.client = some k) (hk : k.phase ≠ .closed) :
    s.isConnected = true := by
  unfold isConnected
  rw [hs, Option.map_some]
  cases hp : k.phase with
  | closed => contradiction
  | fresh => rfl
  | opened => rfl

theorem act_update (given : List (Given ServiceConfig)) :
    s.act (.update given) =
      match updated given with
      | .ok c => (⟨.ok (), none, [.updated c.enabled]⟩, { s with config := c })
      | .error f => (.failed f, s) := rfl

section alert

variable {url : String} {o : Occurrence} {h : HandlerConfig} {p : Post} {k : Client}

theorem alert_failed {f : Failure} (hp : prepare s.config url o h = .error f) :
    s.alert url o h = (.failed f, s) := by
  unfold alert
  rw [hp]

theorem alert_kept (hp : prepare s.config url o h = .ok p) (hc : s.client = some k) :
    s.alert url o h =
      ((k.attempt s.moment p s.replies).1,
        { s with
          client := some (k.attempt s.moment p s.replies).2.1
          replies := (k.attempt s.moment p s.replies).2.2 }) := by
  unfold alert
  rw [hp]
  dsimp only
  rw [hc]

theorem alert_alone (hp : prepare s.config url o h = .ok p) (hc : s.client = none) :
    s.alert url o h =
      ((Client.attempt ⟨.opened, []⟩ s.moment p s.replies).1,
        { s with replies := (Client.attempt ⟨.opened, []⟩ s.moment p s.replies).2.2 }) := by
  unfold alert
  rw [hp]
  dsimp only
  rw [hc]
  rfl

theorem alert_shown (hs : s.IsLive) (url : String) (o : Occurrence) (h : HandlerConfig) :
    (s.alert url o h).1 = (Delivery.alert s.config url o h s.replies).1 ∧
      (s.alert url o h).2.shown =
        { s.shown with replies := (Delivery.alert s.config url o h s.replies).2 } ∧
      (s.alert url o h).2.IsLive := by
  unfold Delivery.alert
  cases hp : prepare s.config url o h with
  | error f =>
    rw [alert_failed hp]
    exact ⟨rfl, rfl, hs⟩
  | ok p =>
    cases hc : s.client with
    | none =>
      obtain ⟨k', -, ha⟩ := Client.attempt_eq (k := ⟨.opened, []⟩) s.moment nofun p s.replies
      rw [alert_alone hp hc, ha]
      exact ⟨rfl, rfl, hs⟩
    | some k =>
      have hk : k.phase ≠ .closed := hs k hc
      obtain ⟨k', hk', ha⟩ := Client.attempt_eq s.moment hk p s.replies
      rw [alert_kept hp hc, ha]
      refine ⟨rfl, ?_, fun x hx => ?_⟩
      rotate_left
      · cases hx
        exact hk'
      unfold shown
      rw [isConnected_of_some hc hk, isConnected_of_some rfl hk']

end alert

theorem act_follows (hs : s.IsLive) (x : Step) : s.Follows x (s.act x) := by
  cases x with
  | alert url o h =>
    obtain ⟨ha, hb, hl⟩ := alert_shown hs url o h
    exact ⟨ha, hb, hl⟩
  | handle e h context =>
    obtain ⟨ha, hb, hl⟩ := alert_shown hs h.url e.occurrence h
    have he : s.shown.step (.handle e h context) =
        ((handle s.config e h context s.replies).1,
          { s.shown with replies := (handle s.config e h context s.replies).2 }) := rfl
    refine ⟨?_, ?_, hl⟩
    · rw [he, handle_eq, ← ha]
      rfl
    · rw [he, handle_eq]
      exact hb
  | test options =>
    cases options with
    | other v => exact ⟨rfl, rfl, hs⟩
    | fit o =>
      obtain ⟨ha, hb, hl⟩ := alert_shown hs s.config.url o.occurrence o.handler
      exact ⟨ha, hb, hl⟩
  | update given =>
    refine ⟨?_, ?_, ?_⟩
    · rw [act_update, Service.step_update]
      cases updated given <;> rfl
    · rw [act_update, Service.step_update]
      cases updated given <;> rfl
    · rw [act_update]
      cases updated given <;> exact hs
  | connect =>
    have hk : (s.client.getD .fresh).phase ≠ .closed := by
      cases hc : s.client with
      | none => nofun
      | some k => exact hs k hc
    refine ⟨rfl, ?_, fun k h => ?_⟩
    rotate_left
    · cases h
      exact hk
    unfold shown
    rw [isConnected_of_some rfl hk]
    rfl
  | disconnect => exact ⟨rfl, rfl, nofun⟩

theorem step_follows (hs : s.IsLive) (x : Step) : s.Follows x (s.step x) := by
  obtain ⟨ha, hb, hl⟩ := act_follows hs x
  exact ⟨ha, hb, hl⟩

/-- A service with its client does what one does that is told no more than whether there is one. -/
theorem run_shown (hs : s.IsLive) (steps : List Step) :
    (s.run steps).1 = (s.shown.run steps).1 ∧ (s.run steps).2.shown = (s.shown.run steps).2 := by
  induction steps generalizing s with
  | nil => exact ⟨rfl, rfl⟩
  | cons x rest ih =>
    obtain ⟨ha, hb, hl⟩ := step_follows hs x
    obtain ⟨hra, hrb⟩ := ih hl
    rw [hb] at hra hrb
    refine ⟨?_, hrb⟩
    change (s.step x).1 :: ((s.step x).2.run rest).1 =
      (s.shown.step x).1 :: ((s.shown.step x).2.run rest).1
    rw [ha, hra]

end Keeper

end AlertRelay.Delivery
