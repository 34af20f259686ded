import AlertRelay.Delivery.Post
import AlertRelay.Proofs.Alert.Encoding
import AlertRelay.Proofs.Config.Endpoint

/-!
Preparing a request equals a pipeline of stages, each of which is a function of the configuration,
the handler and the alert alone: no template sees what another one wrote.
-/

namespace AlertRelay.Delivery

open AlertRelay.Alert AlertRelay.Config

/-- What a buffer held before does not show in a text that is filled in with it. -/
theorem renderInto_snd (buffer name source : String) (data : Value) :
    (Template.renderInto buffer name source data).2 = Template.render name source data := by
  unfold Template.render Template.renderInto
  split
  · rfl
  · rfl

/-- Why something failed, if it did. -/
def failureOf? {ε α : Type} : Except ε α → Option ε
  | .error e => some e
  | .ok _ => none

/-- The record that the templates of a handler are filled in from: the id of the alert, its name,
the name of its task, and its fields and tags. -/
def dataOf (o : Occurrence) : Value :=
  .record o.id o.data.name o.data.taskName o.data.fields o.data.tags

/-- The templates of a handler under the names that messages give them, in the order in which they
are filled in. -/
def templatesOf (h : HandlerConfig) : List (String × String) :=
  [("node", h.node), ("type", h.type), ("resource", h.resource), ("metricName", h.metricName),
    ("messageKey", h.messageKey)]

/-- What fails in each template of a handler, alone. -/
def templateFailures (h : HandlerConfig) (data : Value) : List (Option Template.Failure) :=
  (templatesOf h).map fun t => failureOf? (Template.render t.1 t.2 data)

/-- A URL that is given goes before that of the configuration. -/
def urlOf (c : ServiceConfig) (url : String) : String := if url = "" then c.url else url

/-- The failures of all stages on their own, in the order of the stages. -/
def stageFailures (c : ServiceConfig) (url : String) (o : Occurrence) (h : HandlerConfig) :
    List (Option Failure) :=
  (if c.enabled then none else some .disabled) ::
    (failureOf? (endpoint (urlOf c url))).map .endpoint ::
    (templateFailures h (dataOf o)).map (Option.map .template)

/-- The failure of the first stage that fails. -/
def firstFailure? (c : ServiceConfig) (url : String) (o : Occurrence) (h : HandlerConfig) :
    Option Failure :=
  (stageFailures c url o h).findSome? id

def firstChars (n : Nat) (s : String) : String := String.ofList (s.toList.take n)

/-- The severity of a level, zero for what is no level. -/
def severityText (level : Int) : String :=
  if level = 0 ∨ level = 1 then "5"
  else if level = 2 then "4"
  else if level = 3 then "1"
  else "0"

/-- The event for an alert, given the texts of the templates. -/
def alertFor (c : ServiceConfig) (o : Occurrence) (h : HandlerConfig) (t : Filled) : Payload :=
  { source := firstChars 100 (if h.source = "" then c.source else h.source)
    node := firstChars 100 t.node
    type := firstChars 100 t.type
    resource := firstChars 100 t.resource
    metricName := firstChars 100 t.metricName
    messageKey := firstChars 1024 (if t.messageKey = "" then o.id else t.messageKey)
    severity := severityText o.level
    description := firstChars 4000 o.message }

/-- The pair of the handler if it is whole, or else that of the service if that one is. -/
def credentialsFor (c : ServiceConfig) (h : HandlerConfig) : Option (String × String) :=
  if h.username ≠ "" ∧ h.password ≠ "" then some (h.username, h.password)
  else if c.username ≠ "" ∧ c.password ≠ "" then some (c.username, c.password)
  else none

theorem orElse_eq (s t : String) : orElse s t = if s = "" then t else s := by
  unfold orElse
  simp only [String.isEmpty_iff]

theorem credentialsOf_eq (c : ServiceConfig) (h : HandlerConfig) :
    credentialsOf c h = credentialsFor c h := by
  unfold credentialsOf credentialsFor pairOf
  by_cases hu : h.username = "" <;> by_cases hp : h.password = "" <;>
    by_cases cu : c.username = "" <;> by_cases cp : c.password = "" <;> simp [*]

theorem severityOfCode_eq (level : Int) :
    toString (Level.severityOfCode level) = severityText level := by
  by_cases h₀ : level = 0
  · subst h₀; rfl
  by_cases h₁ : level = 1
  · subst h₁; rfl
  by_cases h₂ : level = 2
  · subst h₂; rfl
  by_cases h₃ : level = 3
  · subst h₃; rfl
  have hn : Level.ofInt? level = none := by
    refine List.find?_eq_none.mpr fun l _ => ?_
    cases l <;> simp [Level.code] <;> omega
  simp only [Level.severityOfCode, severityText, hn, h₀, h₁, h₂, h₃, or_self, if_false]
  rfl

theorem payloadOf_eq (c : ServiceConfig) (o : Occurrence) (h : HandlerConfig) (t : Filled) :
    payloadOf (orElse h.source c.source) t o = alertFor c o h t := by
  unfold payloadOf alertFor Payload.clamp
  simp only [orElse_eq, severityOfCode_eq]
  rfl

/-- The templates are filled in one by one, each as if it stood alone. -/
theorem fillIn_eq (h : HandlerConfig) (data : Value) :
    fillIn h data = do
      let node ← Template.render "node" h.node data
      let type ← Template.render "type" h.type data
      let resource ← Template.render "resource" h.resource data
      let metricName ← Template.render "metricName" h.metricName data
      let messageKey ← Template.render "messageKey" h.messageKey data
      return ⟨node, type, resource, metricName, messageKey⟩ := by
  unfold fillIn
  simp only [renderInto_snd]

/-- What the templates of a handler give, each of them alone. -/
structure FilledAlone (h : HandlerConfig) (data : Value) (t : Filled) : Prop where
  node : Template.render "node" h.node data = .ok t.node
  type : Template.render "type" h.type data = .ok t.type
  resource : Template.render "resource" h.resource data = .ok t.resource
  metricName : Template.render "metricName" h.metricName data = .ok t.metricName
  messageKey : Template.render "messageKey" h.messageKey data = .ok t.messageKey

theorem fillIn_cases (h : HandlerConfig) (data : Value) :
    (∃ f, fillIn h data = .error f ∧ (templateFailures h data).findSome? id = some f) ∨
      ∃ t, fillIn h data = .ok t ∧ (templateFailures h data).findSome? id = none ∧
        FilledAlone h data t := by
  rw [fillIn_eq]
  unfold templateFailures templatesOf
  cases hn : Template.render "node" h.node data with
  | error f => exact .inl ⟨f, rfl, by simp [hn, failureOf?]⟩
  | ok node =>
  cases ht : Template.render "type" h.type data with
  | error f => exact .inl ⟨f, rfl, by simp [hn, ht, failureOf?]⟩
  | ok type =>
  cases hr : Template.render "resource" h.resource data with
  | error f => exact .inl ⟨f, rfl, by simp [hn, ht, hr, failureOf?]⟩
  | ok resource =>
  cases hm : Template.render "metricName" h.metricName data with
  | error f => exact .inl ⟨f, rfl, by simp [hn, ht, hr, hm, failureOf?]⟩
  | ok metricName =>
  cases hk : Template.render "messageKey" h.messageKey data with
  | error f => exact .inl ⟨f, rfl, by simp [hn, ht, hr, hm, hk, failureOf?]⟩
  | ok messageKey =>
  exact .inr ⟨⟨node, type, resource, metricName, messageKey⟩, rfl,
    by simp [hn, ht, hr, hm, hk, failureOf?], ⟨hn, ht, hr, hm, hk⟩⟩

theorem findSome?_map_template (fs : List (Option Template.Failure)) :
    (fs.map (Option.map Failure.template)).findSome? id =
      (fs.findSome? id).map Failure.template := by
  rw [List.findSome?_map, List.map_findSome?]
  rfl

/-- A preparation by its stages. -/
theorem prepare_eq (c : ServiceConfig) (url : String) (o : Occurrence) (h : HandlerConfig) :
    prepare c url o h =
      if c.enabled then
        match endpoint (urlOf c url), fillIn h (dataOf o) with
        | .error e, _ => .error (.endpoint e)
        | .ok _, .error f => .error (.template f)
        | .ok u, .ok t => .ok ⟨u.text, (alertFor c o h t).body, credentialsFor c h, c.timeout⟩
      else .error .disabled := by
  have hu : orElse url c.url = urlOf c url := orElse_eq url c.url
  have hd : (o.data.record o.id).toValue = dataOf o := rfl
  unfold prepare
  rw [hu, hd, credentialsOf_eq]
  cases c.enabled with
  | false => rfl
  | true =>
    cases endpoint (urlOf c url) with
    | error e => rfl
    | ok u =>
      cases fillIn h (dataOf o) with
      | error f => rfl
      | ok t =>
        dsimp only [Except.mapError, bind, Except.bind]
        rw [payloadOf_eq, Payload.encode_eq]
        rfl

theorem FilledAlone.fillIn_eq_ok {h : HandlerConfig} {data : Value} {t : Filled}
    (ht : FilledAlone h data t) : fillIn h data = .ok t := by
  simp only [fillIn_eq, ht.node, ht.type, ht.resource, ht.metricName, ht.messageKey]
  rfl

/-- How a preparation can come out, by the stage that it gets to. -/
inductive Prepares (c : ServiceConfig) (url : String) (o : Occurrence) (h : HandlerConfig) :
    Except Failure Post → Prop where
  | disabled (enabled : c.enabled = false) : Prepares c url o h (.error .disabled)
  | endpoint {e} (enabled : c.enabled = true) (failed : endpoint (urlOf c url) = .error e) :
      Prepares c url o h (.error (.endpoint e))
  | template {u f} (enabled : c.enabled = true) (web : IsWebUrl (urlOf c url) u)
      (failed : (templateFailures h (dataOf o)).findSome? id = some f) :
      Prepares c url o h (.error (.template f))
  | filled {u t} (enabled : c.enabled = true) (web : IsWebUrl (urlOf c url) u)
      (passed : (templateFailures h (dataOf o)).findSome? id = none)
      (alone : FilledAlone h (dataOf o) t) :
      Prepares c url o h
        (.ok ⟨u.text, (alertFor c o h t).body, credentialsFor c h, c.timeout⟩)

theorem prepares_prepare (c : ServiceConfig) (url : String) (o : Occurrence)
    (h : HandlerConfig) : Prepares c url o h (prepare c url o h) := by
  rw [prepare_eq]
  cases hc : c.enabled with
  | false => exact .disabled hc
  | true =>
  rw [if_pos rfl]
  cases hu : endpoint (urlOf c url) with
  | error e => exact .endpoint hc hu
  | ok u =>
  have hw := endpoint_eq_ok_iff.mp hu
  obtain ⟨f, hf, hs⟩ | ⟨t, hf, hs, ht⟩ := fillIn_cases h (dataOf o)
  · rw [hf]
    exact .template hc hw hs
  · rw [hf]
    exact .filled hc hw hs ht

theorem Prepares.prepare_eq {c : ServiceConfig} {url : String} {o : Occurrence}
    {h : HandlerConfig} {r : Except Failure Post} (hp : Prepares c url o h r) :
    prepare c url o h = r := by
  rw [Delivery.prepare_eq]
  cases hp with
  | disabled hc =>
    rw [hc]
    rfl
  | endpoint hc hu => rw [if_pos hc, hu]
  | template hc hw hs =>
    rw [if_pos hc, endpoint_eq_ok_iff.mpr hw]
    obtain ⟨f, hf, hs'⟩ | ⟨t, hf, hs', -⟩ := fillIn_cases h (dataOf o)
    · rw [hs'] at hs
      cases hs
      rw [hf]
    · rw [hs'] at hs
      cases hs
  | filled hc hw hs ht => rw [if_pos hc, endpoint_eq_ok_iff.mpr hw, ht.fillIn_eq_ok]

/-- The stage that a preparation gets to is the first that fails on its own. -/
theorem firstFailure?_eq {c : ServiceConfig} {url : String} {o : Occurrence} {h : HandlerConfig}
    {r : Except Failure Post} (hp : Prepares c url o h r) :
    firstFailure? c url o h = failureOf? r := by
  have hfirst := findSome?_map_template (templateFailures h (dataOf o))
  unfold firstFailure? stageFailures
  cases hp with
  | disabled hc =>
    rw [hc]
    rfl
  | endpoint hc hu =>
    rw [hc, hu]
    rfl
  | template hc hw hs =>
    rw [hs] at hfirst
    rw [hc, endpoint_eq_ok_iff.mpr hw]
    exact hfirst
  | filled hc hw hs ht =>
    rw [hs] at hfirst
    rw [hc, endpoint_eq_ok_iff.mpr hw]
    exact hfirst

/-- Preparing fails with the failure of the first stage that fails: the service is not enabled, the
URL is not one of the web, or a template cannot be filled in alone. Otherwise the request carries
the event for the alert, made of what each template gives alone. -/
theorem prepare_eq_pipeline (c : ServiceConfig) (url : String) (o : Occurrence)
    (h : HandlerConfig) :
    (match firstFailure? c url o h with
      | some f => prepare c url o h = .error f
      | none => ∃ u t body, IsWebUrl (urlOf c url) u ∧ FilledAlone h (dataOf o) t ∧
          (alertFor c o h t).encode = .ok body ∧
          prepare c url o h = .ok
            { url := u.text, body, credentials := credentialsFor c h, timeout := c.timeout }) ∧
      (failureOf? (endpoint (urlOf c url)) = none ↔ ∃ u, IsWebUrl (urlOf c url) u) := by
  refine ⟨?_, ?_⟩
  · have hp := prepares_prepare c url o h
    rw [firstFailure?_eq hp]
    generalize prepare c url o h = r at hp
    cases hp with
    | disabled hc => rfl
    | endpoint hc hu => rfl
    | template hc hw hs => rfl
    | filled hc hw hs ht => exact ⟨_, _, _, hw, ht, Payload.encode_eq _, rfl⟩
  · simp only [← endpoint_eq_ok_iff]
    cases endpoint (urlOf c url) <;> simp [failureOf?]

end AlertRelay.Delivery
