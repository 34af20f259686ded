import AlertRelay.Proofs.Delivery.Requests

/-!
The cookies of a whole run, the one thing besides the configuration that is handed on from step to
step. They come from the answers that a client got since it was opened.
-/

namespace AlertRelay.Delivery

open AlertRelay.Config AlertRelay.Text

/-- The client that is kept when the step at place `i` is done was opened at place `j`: by the first
step to do so after the last one that closed a client. -/
structure KeptSince (steps : List Step) (i j : Nat) : Prop where
  lt : j < i
  opened : steps[j]? = some .connect
  kept : ∀ k, j < k → k < i → steps[k]? ≠ some .disconnect
  first : ∀ k, k < j → steps[k]? = some .connect →
    ∃ m, k < m ∧ m < j ∧ steps[m]? = some .disconnect

section Kept

variable {steps : List Step} {i j k : Nat}

theorem KeptSince.unique (h : KeptSince steps i j) (h' : KeptSince steps i k) : j = k := by
  obtain hlt | heq | hlt := Nat.lt_trichotomy j k
  · obtain ⟨m, hjm, hmk, hm⟩ := h'.first j hlt h.opened
    exact absurd hm (h.kept m hjm (Nat.lt_trans hmk h'.lt))
  · exact heq
  · obtain ⟨m, hkm, hmj, hm⟩ := h.first k hlt h'.opened
    exact absurd hm (h'.kept m hkm (Nat.lt_trans hmj h.lt))

theorem KeptSince.succ (h : KeptSince steps i j) (hx : steps[i]? ≠ some .disconnect) :
    KeptSince steps (i + 1) j := by
  refine ⟨Nat.lt_succ_of_lt h.lt, h.opened, fun k hjk hki => ?_, h.first⟩
  obtain hlt | rfl := Nat.lt_succ_iff_lt_or_eq.mp hki
  · exact h.kept k hjk hlt
  · exact hx

theorem KeptSince.of_succ (h : KeptSince steps (i + 1) j) (hx : steps[i]? ≠ some .connect) :
    KeptSince steps i j := by
  obtain hlt | rfl := Nat.lt_succ_iff_lt_or_eq.mp h.lt
  · exact ⟨hlt, h.opened, fun k hjk hki => h.kept k hjk (Nat.lt_succ_of_lt hki), h.first⟩
  · exact absurd h.opened hx

/-- Of the openings that no closing comes after, the first one counts. -/
theorem exists_keptSince (hk : k < i) (hopened : steps[k]? = some .connect)
    (hkept : ∀ m, k < m → m < i → steps[m]? ≠ some .disconnect) : ∃ j, KeptSince steps i j := by
  induction k using Nat.strongRecOn with
  | _ k ih =>
    by_cases hearlier : ∃ n, n < k ∧ steps[n]? = some .connect ∧
        ∀ m, n < m → m < k → steps[m]? ≠ some .disconnect
    · obtain ⟨n, hn, hconnect, hstays⟩ := hearlier
      refine ih n hn (Nat.lt_trans hn hk) hconnect fun m hnm hmi => ?_
      obtain hlt | rfl | hgt := Nat.lt_trichotomy m k
      · exact hstays m hnm hlt
      · rw [hopened]
        nofun
      · exact hkept m hgt hmi
    · refine ⟨k, hk, hopened, hkept, fun n hn hconnect => ?_⟩
      by_cases hclosed : ∃ m, n < m ∧ m < k ∧ steps[m]? = some .disconnect
      · exact hclosed
      · exact absurd ⟨n, hn, hconnect, fun m hnm hmk hm => hclosed ⟨m, hnm, hmk, hm⟩⟩ hearlier

theorem keptSince_of_connect (hn : ∀ j, ¬ KeptSince steps i j) (hx : steps[i]? = some .connect) :
    KeptSince steps (i + 1) i := by
  refine ⟨Nat.lt_succ_self i, hx, fun k _ _ => by omega, fun k hk hconnect => ?_⟩
  by_cases hclosed : ∃ m, k < m ∧ m < i ∧ steps[m]? = some .disconnect
  · exact hclosed
  · obtain ⟨j, hj⟩ := exists_keptSince hk hconnect fun m hkm hmi hm => hclosed ⟨m, hkm, hmi, hm⟩
    exact absurd hj (hn j)

theorem not_keptSince_of_disconnect (hx : steps[i]? = some .disconnect) (j : Nat) :
    ¬ KeptSince steps (i + 1) j := by
  intro h
  obtain hlt | rfl := Nat.lt_succ_iff_lt_or_eq.mp h.lt
  · exact h.kept i hlt (Nat.lt_succ_self i) hx
  · rw [h.opened] at hx
    cases hx

end Kept

/-!
The visits of a client.
-/

/-- The visit that a request makes, if there is one. -/
def visitOf? (moment : Nat) : Option Request → Reply → Option Visit
  | some r, .answer _ _ headers | some r, .fault _ headers => some ⟨moment, r.url, headers⟩
  | none, _ => none

theorem visitOf?_eq (moment : Nat) (r : Option Request) (reply : Reply) :
    visitOf? moment r reply = r.map fun r => ⟨moment, r.url, reply.headers⟩ := by
  cases r with
  | none => rfl
  | some r => cases reply <;> rfl

section Visits

variable (replies : Replies) (requests : List (Option Request))

/-- The replies that are left when the step at place `i` is done. Each request takes one. -/
def repliesAt (i : Nat) : Replies := replies.drop ((requests.take i).filterMap id).length

def visitAt? (i : Nat) : Option Visit :=
  visitOf? i requests[i]?.join (nextReply (repliesAt replies requests i))

/-- The visits behind place `j` and before place `i`. -/
def visitsBetween (j i : Nat) : List Visit :=
  (List.range i).filterMap fun k => if j < k then visitAt? replies requests k else none

variable {replies requests} {i j : Nat}

theorem visitsBetween_succ_self : visitsBetween replies requests i (i + 1) = [] := by
  refine List.filterMap_eq_nil_iff.mpr fun k hk => if_neg ?_
  rw [List.mem_range] at hk
  omega

theorem visitsBetween_succ (h : j < i) : visitsBetween replies requests j (i + 1) =
    visitsBetween replies requests j i ++ (visitAt? replies requests i).toList := by
  unfold visitsBetween
  rw [List.range_succ, List.filterMap_append, List.filterMap_cons, if_pos h]
  cases visitAt? replies requests i <;> rfl

theorem repliesAt_succ (r : Option Request) (hr : requests[i]? = some r) :
    repliesAt replies requests (i + 1) = (repliesAt replies requests i).drop r.toList.length := by
  unfold repliesAt
  rw [List.take_add_one, hr, Option.toList_some, List.filterMap_append, List.length_append,
    List.drop_drop]
  cases r <;> rfl

/-- Where no reply sets a cookie, no visit does. -/
theorem setsCookie_visitsBetween (hr : ∀ reply ∈ replies, setsCookie reply.headers = false) :
    ∀ v ∈ visitsBetween replies requests j i, setsCookie v.headers = false := by
  intro v hv
  obtain ⟨k, -, hv⟩ := List.mem_filterMap.mp hv
  split at hv
  · rw [visitAt?, visitOf?_eq] at hv
    obtain ⟨r, -, rfl⟩ := Option.map_eq_some_iff.mp hv
    cases hrest : repliesAt replies requests k with
    | nil => rfl
    | cons reply rest =>
      have hmem : reply ∈ repliesAt replies requests k := hrest ▸ List.mem_cons_self
      exact hr reply (List.mem_of_mem_drop hmem)
  · cases hv

/-- The visits of the client that is kept when the step at place `i` is done, if there is one. -/
inductive VisitsAt (steps : List Step) (replies : Replies) (requests : List (Option Request))
    (i : Nat) : Option (List Visit) → Prop
  | kept {k : Nat} : KeptSince steps i k →
      VisitsAt steps replies requests i (some (visitsBetween replies requests k i))
  | alone : (∀ j, ¬ KeptSince steps i j) → VisitsAt steps replies requests i none

variable {steps : List Step} {vs : Option (List Visit)}

theorem VisitsAt.connect (h : VisitsAt steps replies requests i vs)
    (hx : steps[i]? = some .connect) (hnone : visitAt? replies requests i = none) :
    VisitsAt steps replies requests (i + 1) (some (vs.getD [])) := by
  cases h with
  | kept hj =>
    have hkept : VisitsAt steps replies requests (i + 1) _ := .kept (hj.succ (by rw [hx]; nofun))
    rwa [visitsBetween_succ hj.lt, hnone, Option.toList_none, List.append_nil] at hkept
  | alone hn =>
    have hkept : VisitsAt steps replies requests (i + 1) _ := .kept (keptSince_of_connect hn hx)
    rwa [visitsBetween_succ_self] at hkept

theorem VisitsAt.step (h : VisitsAt steps replies requests i vs)
    (hd : steps[i]? ≠ some .disconnect) (ho : steps[i]? ≠ some .connect) :
    VisitsAt steps replies requests (i + 1)
      (vs.map (· ++ (visitAt? replies requests i).toList)) := by
  cases h with
  | kept hj =>
    have hkept : VisitsAt steps replies requests (i + 1) _ := .kept (hj.succ hd)
    rwa [visitsBetween_succ hj.lt] at hkept
  | alone hn => exact .alone fun j hj => hn j (hj.of_succ ho)

end Visits

namespace Keeper

open AlertRelay.Alert

variable {s : Keeper}

theorem map_append_nil (vs : Option (List Visit)) : vs.map (· ++ []) = vs := by
  cases vs with
  | none => rfl
  | some v => exact congrArg some (List.append_nil v)

theorem visits_alert (hs : s.IsLive) (url : String) (o : Occurrence) (h : HandlerConfig) :
    (s.alert url o h).2.client.map Client.visits =
      (s.client.map Client.visits).map (· ++
        (visitOf? s.moment (s.alert url o h).1.request? s.replies.next.1).toList) := by
  cases hp : prepare s.config url o h with
  | error f =>
    rw [alert_failed hp]
    exact (map_append_nil _).symm
  | ok p =>
    cases hc : s.client with
    | none =>
      rw [alert_alone hp hc, hc]
      rfl
    | some k =>
      rw [alert_kept hp hc]
      cases hr : requestOf p with
      | error f =>
        rw [Client.attempt_refused s.moment hr]
        exact congrArg some (List.append_nil _).symm
      | ok r =>
        rw [Client.attempt_made s.moment hr (hs k hc)]
        dsimp only
        rw [request?_send, visitOf?_eq]
        rfl

/-- A step leaves the client open that is kept, if it has nothing to do with opening or closing. -/
theorem visits_step (hs : s.IsLive) {x : Step} (ho : x ≠ .connect) (hd : x ≠ .disconnect) :
    (s.step x).2.client.map Client.visits =
      (s.client.map Client.visits).map (· ++
        (visitOf? s.moment (s.step x).1.request? s.replies.next.1).toList) := by
  cases x with
  | alert url o h => exact visits_alert hs url o h
  | handle e h context =>
    have hr : (s.step (.handle e h context)).1.request? =
        (s.alert h.url e.occurrence h).1.request? :=
      congrArg (Option.map Exchange.request) (exchange_handled _ e context)
    rw [hr]
    exact visits_alert hs h.url e.occurrence h
  | test options =>
    cases options with
    | fit o => exact visits_alert hs s.config.url o.occurrence o.handler
    | other v => exact (map_append_nil _).symm
  | update given =>
    have hclient : (s.step (.update given)).2.client = s.client ∧
        (s.step (.update given)).1.request? = none := by
      unfold step
      rw [act_update]
      cases updated given <;> exact ⟨rfl, rfl⟩
    rw [hclient.1, hclient.2]
    exact (map_append_nil _).symm
  | connect => contradiction
  | disconnect => contradiction

theorem visits_connect : (s.step .connect).2.client.map Client.visits =
    some ((s.client.map Client.visits).getD []) := by
  have hclient : (s.step .connect).2.client = some (s.client.getD .fresh) := rfl
  rw [hclient]
  cases s.client <;> rfl

theorem run_concat (s : Keeper) (steps : List Step) (x : Step) :
    (s.run (steps ++ [x])).2 = ((s.run steps).2.step x).2 := by
  induction steps generalizing s with
  | nil => rfl
  | cons y rest ih => exact ih (s.step y).2

theorem sent_getElem? (rules : CookieRules) (s : Keeper) (steps : List Step) (i : Nat) :
    (s.sent rules steps)[i]? = steps[i]?.map ((s.run (steps.take i)).2.sent? rules) := by
  induction steps generalizing s i with
  | nil => rfl
  | cons x rest ih =>
    cases i with
    | zero => rfl
    | succ i => exact ih (s.step x).2 i

end Keeper

/-!
The service at each place of a run.
-/

section Run

variable (c : ServiceConfig) (steps : List Step) (replies : Replies)

/-- The service when the step at place `i` is done. -/
def keeperAt (i : Nat) : Keeper := ((Keeper.start c replies).run (steps.take i)).2

variable {c steps replies} {i j : Nat} {x : Step}

theorem keeperAt_succ (hx : steps[i]? = some x) :
    keeperAt c steps replies (i + 1) = ((keeperAt c steps replies i).step x).2 := by
  rw [keeperAt, List.take_add_one, hx, Option.toList_some, Keeper.run_concat]
  rfl

theorem requestsUnder_getElem? (hx : steps[i]? = some x) :
    (requestsUnder c steps)[i]? = some (x.request? (latest c (steps.take i))) := by
  rw [requestsUnder, List.getElem?_mapIdx, hx]
  rfl

theorem latest_take_succ (hx : steps[i]? = some x) :
    latest c (steps.take (i + 1)) = x.accepted?.getD (latest c (steps.take i)) := by
  rw [List.take_add_one, hx, Option.toList_some, latest_append, latest_cons, latest_nil]

/-- What is known of the service at a place of a run. -/
structure KeptAt (c : ServiceConfig) (steps : List Step) (replies : Replies) (i : Nat)
    (s : Keeper) : Prop where
  live : s.IsLive
  moment : s.moment = i
  config : s.config = latest c (steps.take i)
  left : s.replies = repliesAt replies (requestsUnder c steps) i
  visits : VisitsAt steps replies (requestsUnder c steps) i (s.client.map Client.visits)

variable {s : Keeper}

theorem KeptAt.request? (h : KeptAt c steps replies i s) (x : Step) :
    (s.step x).1.request? = x.request? (latest c (steps.take i)) := by
  rw [(Keeper.step_follows h.live x).attempt, Service.step_request?, ← h.config]
  rfl

theorem KeptAt.visit (h : KeptAt c steps replies i s) (hx : steps[i]? = some x) :
    visitOf? s.moment (s.step x).1.request? s.replies.next.1 =
      visitAt? replies (requestsUnder c steps) i := by
  rw [visitAt?, requestsUnder_getElem? hx, h.moment, h.left, h.request?, next_fst]
  rfl

theorem KeptAt.visits_succ (h : KeptAt c steps replies i s) (hx : steps[i]? = some x) :
    VisitsAt steps replies (requestsUnder c steps) (i + 1)
      ((s.step x).2.client.map Client.visits) := by
  have hvisit := h.visit hx
  by_cases hd : x = .disconnect
  · subst hd
    exact .alone (not_keptSince_of_disconnect hx)
  by_cases ho : x = .connect
  · subst ho
    rw [Keeper.visits_connect]
    exact h.visits.connect hx hvisit.symm
  · rw [Keeper.visits_step h.live ho hd, hvisit]
    exact h.visits.step (by simpa [hx] using hd) (by simpa [hx] using ho)

theorem KeptAt.succ (h : KeptAt c steps replies i s) (hx : steps[i]? = some x) :
    KeptAt c steps replies (i + 1) (s.step x).2 := by
  have hfollows := Keeper.step_follows h.live x
  have hconfig := congrArg Service.config hfollows.shown
  have hreplies := congrArg Service.replies hfollows.shown
  refine ⟨hfollows.live, congrArg (· + 1) h.moment, ?_, ?_, h.visits_succ hx⟩
  · rw [latest_take_succ hx, ← h.config]
    exact hconfig.trans (Service.step_config _ x)
  · rw [repliesAt_succ _ (requestsUnder_getElem? hx), ← h.config, ← h.left]
    exact hreplies.trans (Service.step_replies _ x)

theorem keptAt (hi : i ≤ steps.length) : KeptAt c steps replies i (keeperAt c steps replies i) := by
  induction i with
  | zero =>
    exact ⟨Keeper.isLive_start c replies, rfl, rfl, rfl,
      .alone fun j hj => absurd hj.lt (Nat.not_lt_zero j)⟩
  | succ i ih =>
    have hx := List.getElem?_eq_getElem (Nat.lt_of_succ_le hi)
    rw [keeperAt_succ hx]
    exact (ih (Nat.le_of_succ_le hi)).succ hx

theorem KeptAt.cookies (h : KeptAt c steps replies i s) (rules : CookieRules) (u : Url) :
    (∀ j, KeptSince steps i j → rules.header (s.client.getD .fresh).visits s.moment u =
        rules.header (visitsBetween replies (requestsUnder c steps) j i) i u) ∧
      ((∀ j, ¬ KeptSince steps i j) →
        rules.header (s.client.getD .fresh).visits s.moment u = none) := by
  have hvisits := h.visits
  generalize hvs : s.client.map Client.visits = vs at hvisits
  cases hvisits with
  | kept hj =>
    obtain ⟨k, hk, hvs⟩ := Option.map_eq_some_iff.mp hvs
    refine ⟨fun j' hj' => ?_, fun hn => absurd hj (hn _)⟩
    rw [← hj.unique hj', hk, h.moment, ← hvs]
    rfl
  | alone hn =>
    refine ⟨fun j hj => absurd hj (hn j), fun _ => ?_⟩
    rw [Option.map_eq_none_iff.mp hvs]
    exact rules.header_eq_none _ _ _ nofun

end Run

/-- A request without cookies. -/
def Request.bare (r : Request) : Sent := ⟨r, none⟩

/-- What is seen of a run by one who knows of the configurations, of the answers that set cookies,
and of nothing else. -/
structure FollowsLatest (rules : CookieRules) (c : ServiceConfig) (steps : List Step)
    (replies : Replies) (sent : List (Option Sent)) (out : List Attempt × Keeper) : Prop where
  /-- The requests, their cookies left aside. -/
  requests : sent.map (Option.map Sent.request) = requestsUnder c steps
  config : out.2.config = latest c steps
  taken : out.2.replies = replies.drop ((requestsUnder c steps).filterMap id).length
  /-- But for cookies, keeping a client open or opening one for each alert comes to the same. -/
  client : out.1 = ((Service.start c replies).run steps).1 ∧
    out.2.shown = ((Service.start c replies).run steps).2
  /-- Cookies go only with a request of a client that is kept, by the answers that it got. -/
  cookies : ∀ i x, sent[i]? = some (some x) →
    (∀ j, KeptSince steps i j → x.cookies =
        rules.header (visitsBetween replies (requestsUnder c steps) j i) i x.request.url) ∧
      ((∀ j, ¬ KeptSince steps i j) → x.cookies = none)
  /-- If no answer sets a cookie or no client is kept, there are none. -/
  bare : (∀ reply ∈ replies, setsCookie reply.headers = false) ∨ .connect ∉ steps →
    sent = (requestsUnder c steps).map (Option.map Request.bare)
  /-- Without a step that is not accepted as an update, all others send what they send with it. -/
  unaffected : ∀ before x after, steps = before ++ x :: after → (∀ d, x ≠ .update [.fit d]) →
    ∀ other, let without := Keeper.start c other
      (without.sent rules (before ++ after)).map (Option.map Sent.request) =
          (sent.map (Option.map Sent.request)).eraseIdx before.length ∧
        (without.run (before ++ after)).2.config = out.2.config

section Follows

variable (rules : CookieRules) (c : ServiceConfig) (steps : List Step) (replies : Replies)

theorem Keeper.request_sent (s : Keeper) : (s.sent rules steps).map (Option.map Sent.request) =
    (s.run steps).1.map Attempt.request? := by
  induction steps generalizing s with
  | nil => rfl
  | cons x rest ih =>
    have hx : (s.sent? rules x).map Sent.request = (s.step x).1.request? := by
      unfold Keeper.sent?
      cases (s.step x).1.request? <;> rfl
    change (s.sent? rules x).map Sent.request :: _ = (s.step x).1.request? :: _
    rw [hx]
    exact congrArg _ (ih (s.step x).2)

theorem request_sent : ((Keeper.start c replies).sent rules steps).map (Option.map Sent.request) =
    requestsUnder c steps := by
  rw [Keeper.request_sent, (Keeper.run_shown (Keeper.isLive_start c replies) steps).1]
  exact Service.run_requests _ steps

theorem config_run : ((Keeper.start c replies).run steps).2.config = latest c steps := by
  have hshown := (Keeper.run_shown (Keeper.isLive_start c replies) steps).2
  exact (congrArg Service.config hshown).trans (Service.run_config _ steps)

variable {rules c steps replies} {i : Nat} {x : Sent}

theorem cookies_sent (h : ((Keeper.start c replies).sent rules steps)[i]? = some (some x)) :
    (∀ j, KeptSince steps i j → x.cookies =
        rules.header (visitsBetween replies (requestsUnder c steps) j i) i x.request.url) ∧
      ((∀ j, ¬ KeptSince steps i j) → x.cookies = none) := by
  rw [Keeper.sent_getElem?] at h
  obtain ⟨y, hy, h⟩ := Option.map_eq_some_iff.mp h
  obtain ⟨r, -, rfl⟩ := Option.map_eq_some_iff.mp h
  obtain ⟨hi, -⟩ := List.getElem?_eq_some_iff.mp hy
  exact (keptAt (Nat.le_of_lt hi)).cookies rules r.url

theorem cookies_eq_none
    (hn : (∀ reply ∈ replies, setsCookie reply.headers = false) ∨ .connect ∉ steps)
    (h : ((Keeper.start c replies).sent rules steps)[i]? = some (some x)) : x.cookies = none := by
  obtain ⟨hkept, halone⟩ := cookies_sent h
  by_cases hj : ∃ j, KeptSince steps i j
  · obtain ⟨j, hj⟩ := hj
    obtain hr | hconnect := hn
    · rw [hkept j hj]
      exact rules.header_eq_none _ _ _ (setsCookie_visitsBetween hr)
    · exact absurd (List.mem_of_getElem? hj.opened) hconnect
  · exact halone fun j hj' => hj ⟨j, hj'⟩

/-- Requests whose cookies are all absent are told by the rest of them. -/
theorem eq_map_bare {sent : List (Option Sent)}
    (h : ∀ (i : Nat) (x : Sent), sent[i]? = some (some x) → x.cookies = none) :
    sent = (sent.map (Option.map Sent.request)).map (Option.map Request.bare) := by
  refine List.ext_getElem? fun i => ?_
  rw [List.getElem?_map, List.getElem?_map]
  cases hs : sent[i]? with
  | none => rfl
  | some y =>
    cases y with
    | none => rfl
    | some x =>
      obtain ⟨r, cookies⟩ := x
      cases h i _ hs
      rfl

end Follows

/-- A run makes the requests that its steps make alone, each under the configuration that was
accepted last: one request where the preparation comes out well and the client takes it, and none
otherwise. An update is accepted if it gives one configuration and nothing else. A client that is
kept adds cookies, which come from the answers that it got since it was opened. -/
theorem run_follows_latest (rules : CookieRules) (c : ServiceConfig) (steps : List Step)
    (replies : Replies) :
    FollowsLatest rules c steps replies ((Keeper.start c replies).sent rules steps)
        ((Keeper.start c replies).run steps) ∧
      (∀ d x r, Step.request? d x = some r ↔
        ∃ p, x.preparation? d = some (.ok p) ∧ requestOf p = .ok r) ∧
      (∀ p r, requestOf p = .ok r → Carries p r) ∧
      ∀ (s : Service) given, (s.step (.update given)).1.outcome = .ok () ↔
        ∃ d, given = [.fit d] := by
  refine ⟨?_, fun d x r => request?_eq_some_iff,
    fun p r h => (completes_of_requestOf h).toCarries, fun s given => s.outcome_update given⟩
  have hrequests := request_sent rules c steps replies
  have hshown := Keeper.run_shown (Keeper.isLive_start c replies) steps
  refine ⟨hrequests, config_run c steps replies, ?_, hshown, fun i x => cookies_sent,
    fun hn => ?_, ?_⟩
  · have htaken := (congrArg Service.replies hshown.2).trans (Service.run_replies _ steps)
    rw [← hrequests, Keeper.request_sent, hshown.1, List.filterMap_map]
    exact htaken
  · rw [← hrequests]
    exact eq_map_bare fun i x hx => cookies_eq_none hn hx
  · rintro before x after rfl hx other
    have hx : x.accepted? = none :=
      Option.eq_none_iff_forall_ne_some.mpr fun d hd => hx d (accepted?_eq_some_iff.mp hd)
    dsimp only
    rw [hrequests, request_sent, config_run, config_run]
    exact ⟨requestsUnder_without hx c before after, (latest_without hx c before after).symm⟩

/-- The cookies of a client of the simplest sort, which gives back to each host what that host has
set. -/
def hostCookies (visits : List Visit) (u : Url) : List String :=
  (visits.filter (·.url.host == u.host)).flatMap fun v =>
    (v.headers.filter fun h => lowerAscii h.1.toList == "set-cookie".toList).map fun h =>
      String.ofList (h.2.toList.takeWhile (· != ';'))

theorem hostCookies_eq_nil {visits : List Visit} (h : ∀ v ∈ visits, setsCookie v.headers = false)
    (u : Url) : hostCookies visits u = [] := by
  refine List.flatMap_eq_nil_iff.mpr fun v hv => List.map_eq_nil_iff.mpr ?_
  refine List.filter_eq_nil_iff.mpr fun x hx => ?_
  have hv := List.any_eq_false.mp (h v (List.mem_filter.mp hv).1)
  exact hv x hx

def hostRules : CookieRules where
  header visits _ u :=
    match hostCookies visits u with
    | [] => none
    | cookie :: rest => some ("; ".intercalate (cookie :: rest))
  header_eq_none visits _ u h := by rw [hostCookies_eq_nil h]

/-- An alert that is rejected leaves a cookie behind, which goes with the next request if a client
is kept. Both requests carry the credentials of the URL, where none were prepared. -/
theorem cookie_returned :
    let c := { ServiceConfig.default with enabled := true, url := "http://u:p@sn.example/" }
    let x : Step := .alert "" ⟨"a1", "m", 3, .empty⟩ .empty
    let rejection : Reply := .answer 500 (.ok []) [("Set-Cookie", "a=b")]
    let seen (replies : Replies) (steps : List Step) :=
      ((Keeper.start c replies).sent hostRules steps).map
        (Option.map fun r => (r.request.authorization, r.cookies))
    (prepare c "" ⟨"a1", "m", 3, .empty⟩ .empty).toOption.map Post.credentials = some none ∧
      seen [rejection] [.connect, x, x] =
        [none, some (some "Basic dTpw", none), some (some "Basic dTpw", some "a=b")] ∧
      seen [] [.connect, x] = [none, some (some "Basic dTpw", none)] :=
  ⟨by decide +kernel, by decide +kernel, by decide +kernel⟩

end AlertRelay.Delivery
