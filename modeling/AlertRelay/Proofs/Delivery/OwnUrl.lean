import AlertRelay.Proofs.Config.Validated
import AlertRelay.Proofs.Delivery.Requests

/-!
What is sent to the URL of the configuration itself. A service that was only ever given accepted
configurations has a URL that events can be sent to whenever it is enabled.
-/

namespace AlertRelay.Delivery

open AlertRelay.Alert AlertRelay.Config

/-- A step that sends to the URL of the configuration. -/
def Step.UsesOwnUrl : Step → Prop
  | .alert url _ _ => url = ""
  | .handle _ h _ => h.url = ""
  | .test _ => True
  | .update _ | .connect | .disconnect => False

/-- All that failed in an attempt: what it ended with, and what was reported in the log. -/
def Attempt.failures (a : Attempt) : List Failure :=
  (failureOf? a.outcome).toList ++ a.notices.filterMap Notice.failure

theorem mem_failures {a : Attempt} {f : Failure} :
    f ∈ a.failures ↔ a.outcome = .error f ∨ ∃ n ∈ a.notices, n.failure = some f := by
  unfold Attempt.failures
  rw [List.mem_append, List.mem_filterMap, Option.mem_toList]
  cases a.outcome <;> simp [failureOf?]

/-- Only a URL is reported as one that is invalid. -/
theorem endpoint_of_name {f : Failure} (h : f.name = "InvalidURLError") : ∃ e, f = .endpoint e := by
  cases f with
  | endpoint e => exact ⟨e, rfl⟩
  | template t => cases t <;> simp [Failure.name] at h
  | accident sort m => cases sort <;> simp [Failure.name, Accident.name] at h
  | _ => simp [Failure.name] at h

section attempts

variable {e : EndpointError}

theorem failure_ne_endpoint (f : Fault) : f.failure ≠ .endpoint e := by
  cases f <;> rintro ⟨⟩

theorem requestOf_ne_endpoint (p : Post) : requestOf p ≠ .error (.endpoint e) := by
  unfold requestOf
  split
  · rintro ⟨⟩
  · split <;> rintro ⟨⟩

theorem updated_ne_endpoint (given : List (Given ServiceConfig)) :
    updated given ≠ .error (.endpoint e) := by
  unfold updated
  split <;> rintro ⟨⟩

theorem endpoint_not_mem_send (p : Post) (r : Request) (reply : Reply) :
    .endpoint e ∉ (send p r reply).failures := by
  rw [mem_failures]
  cases reply with
  | fault f headers =>
    rintro (h | ⟨n, ⟨⟩, -⟩)
    exact failure_ne_endpoint f (Except.error.inj h)
  | answer status body headers =>
    by_cases hs : status = created
    · subst hs
      rintro (⟨⟨⟩⟩ | ⟨n, hn, hf⟩)
      cases List.mem_singleton.mp hn
      cases hf
    · cases body with
      | ok bytes =>
        rw [send_readable p r bytes headers hs]
        rintro (⟨⟨⟩⟩ | ⟨n, ⟨⟩, -⟩)
      | error f =>
        rw [send_unreadable p r f headers hs]
        rintro (h | ⟨n, ⟨⟩, -⟩)
        exact failure_ne_endpoint f (Except.error.inj h)

theorem preparation_of_endpoint {p : Except Failure Post} {replies : Replies}
    (h : .endpoint e ∈ (attempt p replies).1.failures) : p = .error (.endpoint e) := by
  cases p with
  | error f =>
    rw [attempt_failed, mem_failures] at h
    obtain h | ⟨n, ⟨⟩, -⟩ := h
    cases h
    rfl
  | ok p =>
    cases hr : requestOf p with
    | error f =>
      rw [attempt_refused hr, mem_failures] at h
      obtain h | ⟨n, ⟨⟩, -⟩ := h
      cases h
      exact absurd hr (requestOf_ne_endpoint p)
    | ok r =>
      rw [attempt_made hr] at h
      exact absurd h (endpoint_not_mem_send p r _)

/-- A handler reports what the alert failed with, and nothing else. -/
theorem failures_handled {a : Attempt} {ev : Event} {context : Log.Fields} {f : Failure}
    (h : f ∈ (a.handled ev context).failures) : f ∈ a.failures := by
  unfold Attempt.handled at h
  split at h
  · exact h
  · next g ho =>
    split at h
    · rw [mem_failures] at h ⊢
      obtain ⟨⟨⟩⟩ | ⟨n, hn, hf⟩ := h
      rcases List.mem_append.mp hn with hn | hn
      · exact .inr ⟨n, hn, hf⟩
      · rw [List.mem_singleton] at hn
        subst hn
        cases hf
        exact .inl ho
    · exact h

/-- A step fails for the URL only if the URL was found bad when the request was prepared. -/
theorem endpoint_of_step {s : Service} {x : Step} (h : .endpoint e ∈ (s.step x).1.failures) :
    x.preparation? s.config = some (.error (.endpoint e)) := by
  cases x with
  | alert url o hc => exact congrArg some (preparation_of_endpoint h)
  | handle ev hc context =>
    have hs : (s.step (.handle ev hc context)).1 =
        (handle s.config ev hc context s.replies).1 := rfl
    rw [hs, handle_eq] at h
    exact congrArg some (preparation_of_endpoint (failures_handled h))
  | test options =>
    cases options with
    | fit o => exact congrArg some (preparation_of_endpoint h)
    | other v =>
      rw [mem_failures] at h
      obtain ⟨⟨⟩⟩ | ⟨n, ⟨⟩, -⟩ := h
  | update given =>
    rw [Service.step_update] at h
    cases hu : updated given with
    | ok c =>
      rw [hu, mem_failures] at h
      obtain ⟨⟨⟩⟩ | ⟨n, hn, hf⟩ := h
      cases List.mem_singleton.mp hn
      cases hf
    | error f =>
      rw [hu, mem_failures] at h
      obtain h | ⟨n, ⟨⟩, -⟩ := h
      cases h
      exact absurd hu (updated_ne_endpoint given)
  | connect =>
    rw [mem_failures] at h
    obtain ⟨⟨⟩⟩ | ⟨n, ⟨⟩, -⟩ := h
  | disconnect =>
    rw [mem_failures] at h
    obtain ⟨⟨⟩⟩ | ⟨n, ⟨⟩, -⟩ := h

end attempts

/-- A step that sends to the URL of the configuration prepares what an alert without a URL does. -/
theorem preparation_of_usesOwnUrl {x : Step} (hx : x.UsesOwnUrl) {c : ServiceConfig}
    {r : Except Failure Post} (hr : x.preparation? c = some r) :
    ∃ url o h, urlOf c url = c.url ∧ r = prepare c url o h := by
  cases x with
  | alert url o h =>
    cases hr
    cases hx
    exact ⟨"", o, h, rfl, rfl⟩
  | handle e h context =>
    cases hr
    exact ⟨h.url, e.occurrence, h, if_pos hx, rfl⟩
  | test options =>
    cases options with
    | fit o =>
      cases hr
      exact ⟨c.url, o.occurrence, o.handler, ite_id c.url, rfl⟩
    | other v => cases hr
  | update given => cases hx
  | connect => cases hx
  | disconnect => cases hx

/-- Nothing that is sent to the URL of the configuration fails for that URL, and each request that
is made goes to that URL, under a configuration that is enabled and was found good. -/
structure Usable (s : Service) : Prop where
  passes : ∀ x, x.UsesOwnUrl → ∀ f ∈ (s.step x).1.failures,
    f.name ≠ "InvalidURLError" ∧ ∀ e, f ≠ .endpoint e
  checked : ∀ x, x.UsesOwnUrl → ∀ r, (s.step x).1.request? = some r →
    s.config.enabled = true ∧ ∃ u, IsWebUrl s.config.url u ∧ Url.parse u.text = .ok r.url

theorem usable_of_isValidated {s : Service} (hs : s.config.IsValidated) : Usable s := by
  have hpass : ∀ x, x.UsesOwnUrl → ∀ e, Failure.endpoint e ∉ (s.step x).1.failures := by
    intro x hx e he
    obtain ⟨url, o, h, hurl, hp⟩ := preparation_of_usesOwnUrl hx (endpoint_of_step he)
    have hprep := prepares_prepare s.config url o h
    rw [← hp] at hprep
    cases hprep with
    | endpoint hc hf =>
      obtain ⟨u, hu⟩ := ServiceConfig.isValidated_iff.mp hs hc
      rw [hurl, endpoint_eq_ok_iff.mpr hu] at hf
      cases hf
  refine ⟨fun x hx f hf => ⟨fun hname => ?_, ?_⟩, fun x hx r hr => ?_⟩
  · obtain ⟨e, rfl⟩ := endpoint_of_name hname
    exact hpass x hx e hf
  · rintro e rfl
    exact hpass x hx e hf
  · rw [Service.step_request?] at hr
    obtain ⟨p, hp, hq⟩ := request?_eq_some_iff.mp hr
    obtain ⟨url, o, h, hurl, hp⟩ := preparation_of_usesOwnUrl hx hp
    have hprep := prepares_prepare s.config url o h
    rw [← hp] at hprep
    cases hprep with
    | filled hc hw _ _ =>
      rw [hurl] at hw
      exact ⟨hc, _, hw, (completes_of_requestOf hq).url⟩

/-- What holds of the first configuration and of all that are accepted holds of the last one. -/
theorem latest_induction {P : ServiceConfig → Prop} {c : ServiceConfig} (hc : P c)
    {steps : List Step} (hs : ∀ x ∈ steps, ∀ d, x = .update [.fit d] → P d) :
    P (latest c steps) := by
  induction steps generalizing c with
  | nil => exact hc
  | cons x rest ih =>
    rw [latest_cons]
    refine ih ?_ fun y hy => hs y (List.mem_cons_of_mem x hy)
    cases hx : x.accepted? with
    | none => exact hc
    | some d => exact hs x List.mem_cons_self d (accepted?_eq_some_iff.mp hx)

/-- An enabled configuration is accepted exactly if events can be sent to its URL, and so a service
that was given accepted configurations only stays usable, whatever it is asked to do. -/
theorem run_usable (c : ServiceConfig) (hc : c.IsValidated) (steps : List Step)
    (hs : ∀ x ∈ steps, ∀ d, x = .update [.fit d] → d.IsValidated) (replies : Replies) :
    Usable ((Service.start c replies).run steps).2 ∧
      ∀ d : ServiceConfig, d.enabled = true →
        (d.IsValidated ↔ ∃ u, IsWebUrl d.url u) ∧ ∀ u, endpoint d.url = .ok u ↔ IsWebUrl d.url u := by
  refine ⟨usable_of_isValidated ?_, fun d hd => ⟨?_, fun u => endpoint_eq_ok_iff⟩⟩
  · rw [Service.run_config]
    exact latest_induction hc hs
  · rw [ServiceConfig.isValidated_iff]
    exact ⟨fun h => h hd, fun h _ => h⟩

theorem isValidated_enabled : { ServiceConfig.default with enabled := true }.IsValidated :=
  ⟨.map [("enabled", .bool true)], rfl⟩

/-- A service that is not enabled has no URL to speak of, until an update brings one. -/
theorem run_usable_updated :
    let c : ServiceConfig := { ServiceConfig.default with url := "" }
    let steps : List Step :=
      [.update [.other .nil], .update [.fit { ServiceConfig.default with enabled := true }]]
    c.IsValidated ∧ (∀ x ∈ steps, ∀ d, x = .update [.fit d] → d.IsValidated) ∧
      Usable ((Service.start c []).run steps).2 ∧
      ∀ d : ServiceConfig, d.enabled = true →
        (d.IsValidated ↔ ∃ u, IsWebUrl d.url u) ∧
          ∀ u, endpoint d.url = .ok u ↔ IsWebUrl d.url u := by
  intro c steps
  have hc : c.IsValidated := ⟨.map [("url", .text "")], rfl⟩
  have hs : ∀ x ∈ steps, ∀ d, x = .update [.fit d] → d.IsValidated := by
    intro x hx d hd
    obtain rfl | hx := List.mem_cons.mp hx
    · cases hd
    · obtain rfl := List.mem_singleton.mp hx
      cases hd
      exact isValidated_enabled
  exact ⟨hc, hs, run_usable c hc steps hs []⟩

end AlertRelay.Delivery
