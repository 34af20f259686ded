import AlertRelay.Command.Run
import AlertRelay.Proofs.Command.Texts
import AlertRelay.Proofs.Delivery.Client

/-!
What the exit code of the command says about the test alert that it was to send: zero stands for an
event that the server took, and one for a failure of the delivery.
-/

namespace AlertRelay.Command

open AlertRelay.Alert AlertRelay.Config AlertRelay.Delivery AlertRelay.Log

section Session

variable (c : ServiceConfig) (o : TestOptions) (replies : Replies)

/-- What a service does that sends a test. Its client is kept open meanwhile. -/
def session : List Attempt × Keeper :=
  (Keeper.start c replies).run [.connect, .test (.fit o), .disconnect]

/-- The requests that are made meanwhile, each with its answer. -/
def exchanges : List Exchange := (session c o replies).1.filterMap Attempt.exchange

/-- What comes of the test itself. -/
def tested : Attempt := (alert c c.url o.occurrence o.handler replies).1

/-- The event of a test. -/
def testPayload : Payload :=
  { source := firstChars 100 (if o.source = "" then c.source else o.source)
    node := ""
    type := ""
    resource := ""
    metricName := ""
    messageKey := firstChars 1024 o.id
    severity := toString o.level.severity
    description := firstChars 4000 o.message }

theorem session_fst :
    (session c o replies).1 = [⟨.ok (), none, []⟩, tested c o replies, ⟨.ok (), none, []⟩] :=
  (Keeper.run_shown (Keeper.isLive_start c replies) _).1

theorem session_test : (session c o replies).1[1]? = some (tested c o replies) := by
  rw [session_fst]
  rfl

/-- Opening a client and closing it sends nothing. -/
theorem exchanges_eq : exchanges c o replies = (tested c o replies).exchange.toList := by
  rw [exchanges, session_fst]
  cases h : (tested c o replies).exchange <;> simp [h]

theorem client_closed : (session c o replies).2.client = none := rfl

theorem tested_ends : (tested c o replies).Ends := ends_of_attempt _ replies

variable {c o replies} {x : Exchange}

theorem tested_of_disabled (hc : c.enabled = false) : tested c o replies = .failed .disabled := by
  unfold tested alert
  rw [(Prepares.disabled hc).prepare_eq, attempt_failed]

theorem severityText_code (l : Alert.Level) : severityText l.code = toString l.severity := by
  cases l <;> rfl

/-- A test has no templates, so that nothing but its options and the source go into the event. -/
theorem alertFor_test {t : Filled} (ht : FilledAlone o.handler (dataOf o.occurrence) t) :
    alertFor c o.occurrence o.handler t = testPayload c o := by
  obtain ⟨hn, ht, hr, hm, hk⟩ := ht
  obtain ⟨node, type, resource, metricName, messageKey⟩ := t
  cases hn
  cases ht
  cases hr
  cases hm
  cases hk
  unfold alertFor testPayload
  rw [← severityText_code]
  rfl

theorem body_of_exchange (h : (tested c o replies).exchange = some x) :
    (testPayload c o).encode = .ok x.request.body := by
  obtain ⟨p, hp, hcarries, -⟩ := exists_of_exchange h
  have hprepared := prepares_prepare c c.url o.occurrence o.handler
  rw [hp] at hprepared
  rw [hcarries.body]
  cases hprepared with
  | filled hc hw hs ht => rw [alertFor_test ht, Payload.encode_eq]

end Session

/-!
What is logged.
-/

namespace Finished

/-- The entries about an event that the log of a run lets through. -/
def told (f : Finished) (event : String) : List Entry := f.entries.filter (·.isAbout event)

/-- The log tells of an event once, and of the alert that it is about. A threshold above the level
of the entry keeps it back. -/
def TellsOnce (f : Finished) (threshold : Nat) (level : Log.Level) (event id : String) : Prop :=
  ∃ e : Entry, e.level = level ∧ e.fields.lookup "alert_id" = some (.text id) ∧
    f.told event = if threshold ≤ level.code then [e] else []

variable {code : Except Trouble Nat} {exchange : Option Exchange} {sink : Sink}
  {notices : List Notice} {event id : String}

theorem told_eq : told ⟨code, exchange, some sink, notices⟩ event =
    ((notices.map Notice.fullEntry).filter (·.isAbout event)).filter sink.accepts :=
  List.filter_comm _ _ _

theorem told_eq_nil (h : (notices.map Notice.fullEntry).filter (·.isAbout event) = []) :
    told ⟨code, exchange, some sink, notices⟩ event = [] := by
  rw [told_eq, h]
  rfl

theorem tellsOnce {e : Entry} {level : Log.Level}
    (h : (notices.map Notice.fullEntry).filter (·.isAbout event) = [e]) (hl : e.level = level)
    (hid : e.fields.lookup "alert_id" = some (.text id)) :
    TellsOnce ⟨code, exchange, some sink, notices⟩ sink.threshold level event id := by
  refine ⟨e, hl, hid, ?_⟩
  rw [told_eq, h, List.filter_singleton, ← hl]
  unfold Sink.accepts
  by_cases ht : sink.threshold ≤ e.level.code <;> simp [ht]

end Finished

/-!
The exit code.
-/

/-- A run gets as far as sending a test with these options: its arguments ask for them, and its log
can be set up. -/
structure Reaches (gs : OptTexts) (s : Settings) (o : TestOptions) : Prop where
  asks : Asks gs o
  logs : ∃ threshold, thresholdNamed (levelName gs s.logging.level) = .ok threshold

/-- What a run says is what happened, under the settings `s` and for the texts that its arguments
give. -/
structure Truthful (gs : OptTexts) (s : Settings) (replies : Replies) (f : Finished) : Prop where
  /-- Zero stands for one request, and an answer by which the event was taken. -/
  zero : f.code = .ok 0 ↔ ∃ o r x, Reaches gs s o ∧
    exchanges s.service o replies = [⟨r, some x⟩] ∧ x.status = created
  /-- One stands for a failure of the delivery, as where the service is not enabled. -/
  one : f.code = .ok 1 ↔ ∃ o a e, Reaches gs s o ∧
    (session s.service o replies).1[1]? = some a ∧ a.outcome = .error e ∧ e.isReported = true
  disabled : ∀ o, Reaches gs s o → s.service.enabled = false →
    f.code = .ok 1 ∧ exchanges s.service o replies = []
  code : ∀ n, f.code = .ok n → n = 0 ∨ n = 1
  /-- The requests of a run are those of its service, which makes one at most and closes its client
  in the end. -/
  made : ∀ o, Reaches gs s o → f.exchange.toList = exchanges s.service o replies ∧
    (exchanges s.service o replies).length ≤ 1 ∧ (session s.service o replies).2.client = none
  unmade : (∀ o, ¬ Reaches gs s o) → f.exchange = none
  answered : ∀ x, f.exchange = some x → x.answer.map Answer.status = replies.next.1.status?
  success : ∀ o threshold, Asks gs o →
    thresholdNamed (levelName gs s.logging.level) = .ok threshold → f.code = .ok 0 →
      f.TellsOnce threshold .info "test_alert_sent" o.id ∧ f.told "test_alert_failed" = [] ∧
        ∀ e ∈ f.entries, e.level ≠ .error
  failure : ∀ o threshold, Asks gs o →
    thresholdNamed (levelName gs s.logging.level) = .ok threshold → f.code = .ok 1 →
      f.TellsOnce threshold .error "test_alert_failed" o.id ∧ f.told "test_alert_sent" = [] ∧
        f.told "servicenow_event_sent" = []
  /-- A run that breaks off says neither. -/
  neither : ∀ t, f.code = .error t → f.told "test_alert_sent" = [] ∧ f.told "test_alert_failed" = []
  body : ∀ x, f.exchange = some x → ∃ o, Reaches gs s o ∧
    (testPayload s.service o).encode = .ok x.request.body

section Run

variable {gs : OptTexts} {s : Settings} {o : TestOptions} {sink : Sink} {replies : Replies}

theorem Asks.unique {o' : TestOptions} (h : Asks gs o) (h' : Asks gs o') : o = o' := by
  obtain ⟨hi, hs, hl, hm, -⟩ := h
  obtain ⟨hi', hs', hl', hm', -⟩ := h'
  obtain ⟨id, source, level, message⟩ := o
  obtain ⟨id', source', level', message'⟩ := o'
  obtain rfl : id = id' := hi.symm.trans hi'
  obtain rfl : source = source' := hs.symm.trans hs'
  obtain rfl : message = message' := hm.symm.trans hm'
  obtain rfl : level = level' := Option.some.inj (hl.symm.trans hl')
  rfl

/-- How the sending of a test ends. All that is said about it below is read off these cases. -/
inductive TestEnds (c : ServiceConfig) (o : TestOptions) (sink : Sink) (replies : Replies) :
    Finished → Prop where
  | taken {u} (taken : (tested c o replies).IsTaken)
      (outcome : (tested c o replies).outcome = .ok ()) :
      TestEnds c o sink replies ⟨.ok 0, (tested c o replies).exchange, some sink,
        [.sent u, sentNotice o.id c.url]⟩
  | reported {e} (taken : ¬ (tested c o replies).IsTaken)
      (outcome : (tested c o replies).outcome = .error e) (reported : e.isReported = true) :
      TestEnds c o sink replies ⟨.ok 1, (tested c o replies).exchange, some sink,
        [failedNotice o.id e]⟩
  | broken {e} (taken : ¬ (tested c o replies).IsTaken)
      (outcome : (tested c o replies).outcome = .error e) (reported : ¬ e.isReported = true) :
      TestEnds c o sink replies ⟨.error (.failure e), (tested c o replies).exchange, some sink, []⟩

theorem testEnds_sendTest (c : ServiceConfig) (o : TestOptions) (sink : Sink) (replies : Replies) :
    TestEnds c o sink replies (sendTest c o sink replies) := by
  have ht : (Delivery.test c c (.fit o) replies).1 = tested c o replies := rfl
  unfold sendTest
  dsimp only
  rw [ht]
  cases tested_ends c o replies with
  | taken ho ht hn =>
    rw [hn, ho]
    exact .taken ht ho
  | @failed e ho ht hn =>
    rw [hn, ho]
    dsimp only
    split
    · next he => exact .reported ht ho he
    · next he => exact .broken ht ho he

namespace TestEnds

variable {c : ServiceConfig} {f : Finished}

theorem exchange_eq (h : TestEnds c o sink replies f) :
    f.exchange = (tested c o replies).exchange := by
  cases h <;> rfl

/-- The run ends with zero exactly if the server took the event. -/
theorem code_eq_zero_iff (h : TestEnds c o sink replies f) :
    f.code = .ok 0 ↔ (tested c o replies).IsTaken := by
  cases h with
  | taken ht ho => exact ⟨fun _ => ht, fun _ => rfl⟩
  | reported ht ho he => exact ⟨nofun, fun h => absurd h ht⟩
  | broken ht ho he => exact ⟨nofun, fun h => absurd h ht⟩

/-- It ends with one exactly if the delivery failed. -/
theorem code_eq_one_iff (h : TestEnds c o sink replies f) :
    f.code = .ok 1 ↔ ∃ e, (tested c o replies).outcome = .error e ∧ e.isReported = true := by
  cases h with
  | taken ht ho =>
    rw [ho]
    exact ⟨nofun, nofun⟩
  | reported ht ho he => exact ⟨fun _ => ⟨_, ho, he⟩, fun _ => rfl⟩
  | broken ht ho he =>
    rw [ho]
    refine ⟨nofun, ?_⟩
    rintro ⟨e', ⟨⟩, he'⟩
    exact absurd he' he

theorem code (h : TestEnds c o sink replies f) {n : Nat} (hn : f.code = .ok n) :
    n = 0 ∨ n = 1 := by
  cases h with
  | taken =>
    cases hn
    exact .inl rfl
  | reported =>
    cases hn
    exact .inr rfl
  | broken => cases hn

theorem success (h : TestEnds c o sink replies f) (h0 : f.code = .ok 0) :
    f.TellsOnce sink.threshold .info "test_alert_sent" o.id ∧ f.told "test_alert_failed" = [] ∧
      ∀ e ∈ f.entries, e.level ≠ .error := by
  cases h with
  | reported => cases h0
  | broken => cases h0
  | taken =>
    refine ⟨Finished.tellsOnce rfl rfl rfl, Finished.told_eq_nil rfl, fun e he => ?_⟩
    obtain ⟨n, hn, rfl⟩ := List.mem_map.mp (List.mem_filter.mp he).1
    obtain rfl | hn := List.mem_cons.mp hn
    · nofun
    · obtain rfl := List.mem_singleton.mp hn
      nofun

theorem failure (h : TestEnds c o sink replies f) (h1 : f.code = .ok 1) :
    f.TellsOnce sink.threshold .error "test_alert_failed" o.id ∧ f.told "test_alert_sent" = [] ∧
      f.told "servicenow_event_sent" = [] := by
  cases h with
  | taken => cases h1
  | broken => cases h1
  | reported =>
    exact ⟨Finished.tellsOnce rfl rfl rfl, Finished.told_eq_nil rfl, Finished.told_eq_nil rfl⟩

theorem neither (h : TestEnds c o sink replies f) {t : Trouble} (ht : f.code = .error t) :
    f.told "test_alert_sent" = [] ∧ f.told "test_alert_failed" = [] := by
  cases h with
  | taken => cases ht
  | reported => cases ht
  | broken => exact ⟨rfl, rfl⟩

end TestEnds

theorem isTaken_iff {c : ServiceConfig} : (tested c o replies).IsTaken ↔
    ∃ r x, exchanges c o replies = [⟨r, some x⟩] ∧ x.status = created := by
  simp only [exchanges_eq, Option.toList_eq_singleton_iff]
  rfl

theorem TestEnds.truthful {f : Finished} (h : TestEnds s.service o sink replies f)
    (hr : Reaches gs s o)
    (hsink : thresholdNamed (levelName gs s.logging.level) = .ok sink.threshold) :
    Truthful gs s replies f where
  zero := by
    rw [h.code_eq_zero_iff, isTaken_iff]
    constructor
    · rintro ⟨r, x, hx⟩
      exact ⟨o, r, x, hr, hx⟩
    · rintro ⟨o', r, x, hr', hx⟩
      rw [← hr.asks.unique hr'.asks] at hx
      exact ⟨r, x, hx⟩
  one := by
    rw [h.code_eq_one_iff]
    constructor
    · rintro ⟨e, he⟩
      exact ⟨o, _, e, hr, session_test s.service o replies, he⟩
    · rintro ⟨o', a, e, hr', ha, he⟩
      rw [← hr.asks.unique hr'.asks, session_test] at ha
      cases ha
      exact ⟨e, he⟩
  disabled o' hr' hc := by
    rw [← hr.asks.unique hr'.asks, h.code_eq_one_iff, exchanges_eq, tested_of_disabled hc]
    exact ⟨⟨.disabled, rfl, rfl⟩, rfl⟩
  code _ := h.code
  made o' hr' := by
    rw [← hr.asks.unique hr'.asks, h.exchange_eq, exchanges_eq]
    exact ⟨rfl, Option.length_toList_le, client_closed s.service o replies⟩
  unmade hn := absurd hr (hn o)
  answered x hx := by
    rw [h.exchange_eq] at hx
    obtain ⟨p, -, -, hanswer⟩ := exists_of_exchange hx
    exact hanswer
  success o' threshold ho' ht h0 := by
    rw [← hr.asks.unique ho']
    cases hsink.symm.trans ht
    exact h.success h0
  failure o' threshold ho' ht h1 := by
    rw [← hr.asks.unique ho']
    cases hsink.symm.trans ht
    exact h.failure h1
  neither _ := h.neither
  body x hx := by
    rw [h.exchange_eq] at hx
    exact ⟨o, hr, body_of_exchange hx⟩

/-- A run that breaks off before the test does nothing. -/
theorem truthful_stopped (hr : ∀ o, ¬ Reaches gs s o) (t : Trouble) (sink : Option Sink) :
    Truthful gs s replies ⟨.error t, none, sink, []⟩ where
  zero := by
    constructor
    · rintro ⟨⟩
    · rintro ⟨o, r, x, ho, -⟩
      exact absurd ho (hr o)
  one := by
    constructor
    · rintro ⟨⟩
    · rintro ⟨o, a, e, ho, -⟩
      exact absurd ho (hr o)
  disabled o ho := absurd ho (hr o)
  code _ h := by cases h
  made o ho := absurd ho (hr o)
  unmade _ := rfl
  answered _ hx := by cases hx
  success _ _ _ _ h := by cases h
  failure _ _ _ _ h := by cases h
  neither _ _ := by cases sink <;> exact ⟨rfl, rfl⟩
  body _ hx := by cases hx

theorem truthful_run {files : Files} {a : Arguments} (ha : setOptions .default gs = .ok a)
    (hs : readSettings files a.path = .ok s) : Truthful gs s replies (run files a replies) := by
  unfold run
  rw [hs]
  dsimp only
  unfold Sink.ofSettings
  rw [choose_threshold ha]
  cases hlog : thresholdNamed (levelName gs s.logging.level) with
  | error e =>
    refine truthful_stopped (fun o ho => ?_) _ _
    obtain ⟨n, hn⟩ := ho.logs
    rw [hlog] at hn
    cases hn
  | ok threshold =>
    dsimp only [Except.map]
    cases ho : a.options with
    | error e =>
      refine truthful_stopped (fun o hr => ?_) _ _
      rw [(options_iff_asks ha).mpr hr.asks] at ho
      cases ho
    | ok o =>
      have hr : Reaches gs s o := ⟨(options_iff_asks ha).mp ho, threshold, hlog⟩
      exact (testEnds_sendTest s.service o _ replies).truthful hr hlog

end Run

/-- A run of the command ends with zero exactly if it made one request and the answer to that says
that the event was taken, and with one exactly if the delivery failed. What it logs tells the same,
and what it sends is the event that its arguments ask for. Answers nested beyond the reader's stack
are left aside. -/
theorem run_truthful (files : Files) {args : List String} {a : Arguments} {s : Settings}
    (replies : Replies) (ha : readArguments args = .ok (.send a))
    (hs : readSettings files a.path = .ok s) :
    (∃ gs, Gives args gs) ∧
      ∀ gs, Gives args gs → Truthful gs s replies (run files a replies) := by
  obtain ⟨gs, hgs, -⟩ := readArguments_eq_send_iff.mp ha
  refine ⟨⟨gs, hgs⟩, fun gs hgs => ?_⟩
  rw [hgs.readArguments_eq] at ha
  obtain ⟨b, hb, ⟨⟩⟩ := map_eq_ok ha
  exact truthful_run hb hs

/-- A beginning of a name, a text behind an equals sign, an empty source, and a server that takes
the event. -/
theorem run_truthful_taken :
    let args := ["--config=s.yaml", "--alert-id", "disk", "--lev", "WARNING", "--source="]
    let a : Arguments := ⟨some (.one "s.yaml"), none, .one "disk", .one "", .one .warning,
      .one "test servicenow alert"⟩
    let files := Tree.find [(["s.yaml"], "servicenow: \x7benabled: true, source: ops\x7d")]
    let s : Settings :=
      ⟨{ ServiceConfig.default with enabled := true, source := "ops" }, .default⟩
    let replies := [Reply.answer 201 (.ok [])]
    readArguments args = .ok (.send a) ∧ readSettings files a.path = .ok s ∧
      (∃ gs, Gives args gs ∧ Truthful gs s replies (run files a replies)) ∧
      (run files a replies).code.toOption = some 0 := by
  intro args a files s replies
  have ha : readArguments args = .ok (.send a) := by decide +kernel
  have hs : readSettings files a.path = .ok s := by decide +kernel
  obtain ⟨⟨gs, hgs⟩, htruthful⟩ := run_truthful files replies ha hs
  exact ⟨ha, hs, ⟨gs, hgs, htruthful gs hgs⟩, by decide +kernel⟩

end AlertRelay.Command
