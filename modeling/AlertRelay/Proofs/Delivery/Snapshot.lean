import AlertRelay.Proofs.Delivery.Sending

/-!
Calls during which the configuration is changed by others. Each read and each update takes effect
at once, in any order. An alert reads the configuration once, so that it does what it would do if
one configuration had been in place all along. A test reads it once more before that, for the URL
alone, and may send to the URL of one configuration with all the rest from another.
-/

namespace AlertRelay.Delivery

open AlertRelay.Alert AlertRelay.Config

/-- What is left of a call: to read the configuration and go on by it, or nothing. -/
inductive Call where
  | read (next : ServiceConfig → Call)
  | done (out : Attempt × Replies)

/-- Whether a call is done after so many reads at most. -/
def Call.EndsWithin : Nat → Call → Prop
  | _, .done _ => True
  | 0, .read _ => False
  | n + 1, .read next => ∀ c, (next c).EndsWithin n

/-- The call that a step consists in, if it is one that sends. The replies are those that the call
is to get. -/
def Step.call? (replies : Replies) : Step → Option Call
  | .alert url o h => some (.read fun c => .done (Delivery.alert c url o h replies))
  | .handle e h context => some (.read fun c => .done (Delivery.handle c e h context replies))
  | .test (.fit o) =>
    some (.read fun first => .read fun second =>
      .done (Delivery.test first second (.fit o) replies))
  | .test (.other v) => some (.done (.failed (.notOptions v), replies))
  | .update _ | .connect | .disconnect => none

/-- What a step comes to if nobody changes the configuration meanwhile. -/
def Step.alone (replies : Replies) (x : Step) (c : ServiceConfig) : Attempt × Replies :=
  let (a, s) := (Service.start c replies).step x
  (a, s.replies)

/-- Whose turn it is while a call is under way: that of the call itself, or of an update. -/
inductive Turn where
  | call
  | update (given : List (Given ServiceConfig))

def Turn.isCall : Turn → Bool
  | .call => true
  | .update _ => false

/-- The configuration that a turn puts in place, if it does. -/
def Turn.accepted? : Turn → Option ServiceConfig
  | .call => none
  | .update given => (updated given).toOption

/-- The configuration in place after some turns. -/
def configAfter (c : ServiceConfig) (turns : List Turn) : ServiceConfig :=
  turns.foldl (fun c t => t.accepted?.getD c) c

/-- How a call can come out while others change the configuration. -/
inductive Resolved (c : ServiceConfig) (turns : List Turn) (replies : Replies) (x : Step) :
    Attempt × Replies → Prop where
  /-- A configuration that the call read might have been in place all along. -/
  | whole {before rest} (split : turns = before ++ .call :: rest) :
      Resolved c turns replies x (x.alone replies (configAfter c before))
  /-- What is not fit for options is refused before anything is read. -/
  | refused {v} (given : x = .test (.other v)) :
      Resolved c turns replies x (.failed (.notOptions v), replies)
  /-- A test took the URL of one configuration and all the rest from another, which has another
  URL. -/
  | mixed {o before between rest first second} (given : x = .test (.fit o))
      (split : turns = before ++ .call :: (between ++ .call :: rest))
      (earlier : first = configAfter c before) (later : second = configAfter first between)
      (named : first.url ≠ "") (differs : first.url ≠ second.url) :
      Resolved c turns replies x (alert second first.url o.occurrence o.handler replies)

/-- A call under way, and the configuration in place. -/
structure Underway where
  config : ServiceConfig
  call : Call

namespace Underway

def turn (s : Underway) : Turn → Underway
  | .call =>
    match s.call with
    | .read next => { s with call := next s.config }
    | .done _ => s
  | .update given =>
    match updated given with
    | .ok c => { s with config := c }
    | .error _ => s

def after (s : Underway) (turns : List Turn) : Underway := turns.foldl turn s

theorem turn_eq_match (s : Underway) (given : List (Given ServiceConfig)) :
    s.turn (.update given) =
      match updated given with
      | .ok c => { s with config := c }
      | .error _ => s := rfl

theorem turn_update (s : Underway) (given : List (Given ServiceConfig)) :
    s.turn (.update given) = { s with config := (Turn.update given).accepted?.getD s.config } := by
  have ha : (Turn.update given).accepted? = (updated given).toOption := rfl
  rw [turn_eq_match, ha]
  cases updated given <;> rfl

theorem after_cons (s : Underway) (t : Turn) (turns : List Turn) :
    s.after (t :: turns) = (s.turn t).after turns := rfl

/-- A call that is done stays as it is, whatever others do. -/
theorem call_after_done (c : ServiceConfig) (out : Attempt × Replies) (turns : List Turn) :
    ((mk c (.done out)).after turns).call = .done out := by
  induction turns generalizing c with
  | nil => rfl
  | cons t turns ih =>
    cases t with
    | call => exact ih c
    | update given =>
      rw [after_cons, turn_update]
      exact ih _

/-- Updates cannot keep a call from its end. -/
theorem exists_done {k : Call} {n : Nat} (hk : k.EndsWithin n) (c : ServiceConfig)
    {turns : List Turn} (hn : n ≤ turns.countP Turn.isCall) :
    ∃ out, ((mk c k).after turns).call = .done out := by
  induction turns generalizing k n c with
  | nil =>
    obtain rfl := Nat.le_zero.mp hn
    cases k with
    | read next => exact hk.elim
    | done out => exact ⟨out, rfl⟩
  | cons t turns ih =>
    cases t with
    | call =>
      cases k with
      | done out => exact ⟨out, call_after_done c out _⟩
      | read next =>
        cases n with
        | zero => exact hk.elim
        | succ n =>
          rw [List.countP_cons_of_pos rfl] at hn
          exact ih (hk c) c (Nat.le_of_succ_le_succ hn)
    | update given =>
      rw [after_cons, turn_update]
      exact ih hk _ hn

/-- A call that gets done has had its turn, and went on by the configuration it found then. -/
theorem exists_read {c : ServiceConfig} {next : ServiceConfig → Call} {turns : List Turn}
    {out : Attempt × Replies} (h : ((mk c (.read next)).after turns).call = .done out) :
    ∃ before rest, turns = before ++ .call :: rest ∧
      ((mk (configAfter c before) (next (configAfter c before))).after rest).call = .done out := by
  induction turns generalizing c with
  | nil => cases h
  | cons t turns ih =>
    cases t with
    | call => exact ⟨[], turns, rfl, h⟩
    | update given =>
      rw [after_cons, turn_update] at h
      obtain ⟨before, rest, rfl, hp⟩ := ih h
      exact ⟨.update given :: before, rest, rfl, hp⟩

/-- A call that has only one read to do goes by the configuration it found then. -/
theorem exists_last_read {c : ServiceConfig} {result : ServiceConfig → Attempt × Replies}
    {turns : List Turn} {out : Attempt × Replies}
    (h : ((mk c (.read fun d => .done (result d))).after turns).call = .done out) :
    ∃ before rest, turns = before ++ .call :: rest ∧ out = result (configAfter c before) := by
  obtain ⟨before, rest, hturns, hdone⟩ := exists_read h
  rw [call_after_done, Call.done.injEq] at hdone
  exact ⟨before, rest, hturns, hdone.symm⟩

end Underway

theorem configAfter_append (c : ServiceConfig) (before after : List Turn) :
    configAfter c (before ++ after) = configAfter (configAfter c before) after := List.foldl_append

theorem configAfter_undisturbed {turns : List Turn} (h : ∀ t ∈ turns, t.accepted? = none)
    (c : ServiceConfig) : configAfter c turns = c := by
  induction turns generalizing c with
  | nil => rfl
  | cons t turns ih =>
    have ht : t.accepted?.getD c = c := by
      rw [h t List.mem_cons_self]
      rfl
    have hrest := ih (fun u hu => h u (List.mem_cons_of_mem t hu)) (t.accepted?.getD c)
    exact hrest.trans ht

theorem prepare_congr {c : ServiceConfig} {url url' : String} (hurl : urlOf c url = urlOf c url')
    (o : Occurrence) (h : HandlerConfig) : prepare c url o h = prepare c url' o h := by
  rw [prepare_eq, prepare_eq, hurl]

/-- A test makes no difference between the two configurations that it reads if the first has no
URL or that of the second. -/
theorem test_eq_alone {first second : ServiceConfig}
    (h : first.url = "" ∨ first.url = second.url) (o : TestOptions) (replies : Replies) :
    test first second (.fit o) replies = Step.alone replies (.test (.fit o)) second := by
  have hurl : urlOf second first.url = urlOf second second.url := by
    unfold urlOf
    obtain h | h := h
    · rw [if_pos h, ite_id]
    · rw [h]
  have hp := prepare_congr hurl o.occurrence o.handler
  change attempt (prepare second first.url o.occurrence o.handler) replies =
    attempt (prepare second second.url o.occurrence o.handler) replies
  rw [hp]

theorem resolved_of_done {replies : Replies} {x : Step} {k : Call} (hk : x.call? replies = some k)
    {c : ServiceConfig} {turns : List Turn} {out : Attempt × Replies}
    (h : ((Underway.mk c k).after turns).call = .done out) : Resolved c turns replies x out := by
  cases x with
  | alert url o hc =>
    cases hk
    obtain ⟨before, rest, hturns, rfl⟩ := Underway.exists_last_read h
    exact .whole hturns
  | handle e hc context =>
    cases hk
    obtain ⟨before, rest, hturns, rfl⟩ := Underway.exists_last_read h
    exact .whole hturns
  | test options =>
    cases options with
    | other v =>
      cases hk
      rw [Underway.call_after_done, Call.done.injEq] at h
      rw [← h]
      exact .refused rfl
    | fit o =>
      cases hk
      obtain ⟨before, later, rfl, hlater⟩ := Underway.exists_read h
      obtain ⟨between, rest, rfl, rfl⟩ := Underway.exists_last_read hlater
      by_cases hurl : (configAfter c before).url = "" ∨
          (configAfter c before).url = (configAfter (configAfter c before) between).url
      · -- The test does all of it by the configuration that it read second.
        have hsecond : configAfter (configAfter c before) between =
            configAfter c (before ++ .call :: between) :=
          (configAfter_append c before (.call :: between)).symm
        rw [test_eq_alone hurl, hsecond]
        exact .whole (List.append_assoc before (.call :: between) _).symm
      · rw [not_or] at hurl
        exact .mixed rfl rfl rfl rfl hurl.1 hurl.2
  | update given => cases hk
  | connect => cases hk
  | disconnect => cases hk

theorem endsWithin_call {replies : Replies} {x : Step} {k : Call}
    (hk : x.call? replies = some k) : k.EndsWithin 2 := by
  cases x with
  | alert url o h =>
    cases hk
    exact fun c => trivial
  | handle e h context =>
    cases hk
    exact fun c => trivial
  | test options =>
    cases options with
    | fit o =>
      cases hk
      exact fun first second => trivial
    | other v =>
      cases hk
      exact trivial
  | update given => cases hk
  | connect => cases hk
  | disconnect => cases hk

/-- A call that nobody disturbs is the step of a service. -/
theorem eq_alone_of_undisturbed {replies : Replies} {x : Step} {k : Call}
    (hk : x.call? replies = some k) {c : ServiceConfig} {turns : List Turn}
    (hturns : ∀ t ∈ turns, t.accepted? = none) {out : Attempt × Replies}
    (h : ((Underway.mk c k).after turns).call = .done out) : out = x.alone replies c := by
  cases resolved_of_done hk h with
  | whole hsplit =>
    subst hsplit
    rw [configAfter_undisturbed fun t ht => hturns t (List.mem_append_left _ ht)]
  | refused hx =>
    rw [hx]
    rfl
  | mixed _ hsplit _ hsecond _ hdiffers =>
    subst hsplit
    rw [configAfter_undisturbed fun t ht => hturns t (by simp [ht])] at hsecond
    exact absurd (congrArg ServiceConfig.url hsecond.symm) hdiffers

/-- A configuration, and the one that is put in its place during a test. -/
def former : ServiceConfig :=
  { ServiceConfig.default with
    enabled := true, url := "http://old/", username := "u", password := "p" }

def latter : ServiceConfig :=
  { former with url := "http://new/", username := "v", password := "q" }

/-- Whatever updates take effect while a call is under way, it comes out as if one configuration
that it read had been in place all along, and then all of its request comes from that one; but a
test mixes two of them if it reads the second after its URL was changed. -/
theorem call_resolved {replies : Replies} {x : Step} {k : Call} (hk : x.call? replies = some k)
    (c : ServiceConfig) (turns : List Turn) :
    (∀ out, ((Underway.mk c k).after turns).call = .done out → Resolved c turns replies x out) ∧
      (2 ≤ turns.countP Turn.isCall → ∃ out, ((Underway.mk c k).after turns).call = .done out) ∧
      ∀ d, (x.alone replies d).1.request? = x.request? d :=
  ⟨fun _ h => resolved_of_done hk h, Underway.exists_done (endsWithin_call hk) c,
    fun d => (Service.start d replies).step_request? x⟩

/-- The password is changed during a test. -/
theorem call_resolved_renewed :
    ∃ k out,
      Step.call? [] (.test (.fit .default)) = some k ∧
      ((Underway.mk former k).after
        [.call, .update [.fit { former with password := "q" }], .call]).call = .done out ∧
      Resolved former [.call, .update [.fit { former with password := "q" }], .call] []
        (.test (.fit .default)) out := by
  have hk : Step.call? [] (.test (.fit .default)) = some _ := rfl
  obtain ⟨hresolved, hdone, -⟩ :=
    call_resolved hk former [.call, .update [.fit { former with password := "q" }], .call]
  obtain ⟨out, hout⟩ := hdone (by decide)
  exact ⟨_, out, hk, hout, hresolved out hout⟩

/-- The URL of the former configuration gets the credentials of the latter, as it would with neither
of them. -/
theorem test_mixes_configurations :
    ∃ k out r,
      Step.call? [] (.test (.fit .default)) = some k ∧
      ((Underway.mk former k).after [.call, .update [.fit latter], .call]).call = .done out ∧
      out.1.request? = some r ∧ Url.parse former.url = .ok r.url ∧
      r.authorization = some (basicAuthorization latter.username latter.password) ∧
      ∀ d ∈ [former, latter], Step.request? d (.test (.fit .default)) ≠ some r := by
  have hmade : (test former latter (.fit .default) []).1.request?.isSome = true := rfl
  refine ⟨_, test former latter (.fit .default) [], _, rfl, rfl, (Option.some_get hmade).symm, rfl,
    rfl, fun d hd hr => ?_⟩
  have hauth := congrArg (Option.map Request.authorization) hr
  have hhost := congrArg (Option.map fun r => r.url.host) hr
  obtain rfl | hd := List.mem_cons.mp hd
  · have hne : some (basicAuthorization "u" "p") ≠ some (basicAuthorization "v" "q") := by decide
    exact hne (Option.some.inj hauth)
  · obtain rfl := List.mem_singleton.mp hd
    have hne : "new".toList ≠ "old".toList := by decide
    exact hne (Option.some.inj hhost)

end AlertRelay.Delivery
