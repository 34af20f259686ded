import AlertRelay.Proofs.Delivery.Client

/-!
The requests of a whole run. Cookies aside, each step sends what it would send alone, under the
configuration that was accepted last before it.
-/

namespace AlertRelay.Delivery

open AlertRelay.Config

/-- The configuration that is accepted last, or the first one if none is. -/
def latest (c : ServiceConfig) (steps : List Step) : ServiceConfig :=
  (steps.filterMap Step.accepted?).getLast?.getD c

/-- What some steps send in turn, each under the configuration accepted last before it. -/
def requestsUnder (c : ServiceConfig) (steps : List Step) : List (Option Request) :=
  steps.mapIdx fun i x => x.request? (latest c (steps.take i))

theorem latest_nil (c : ServiceConfig) : latest c [] = c := rfl

theorem latest_cons (c : ServiceConfig) (x : Step) (rest : List Step) :
    latest c (x :: rest) = latest (x.accepted?.getD c) rest := by
  unfold latest
  cases hx : x.accepted? with
  | none => rw [List.filterMap_cons_none hx]; rfl
  | some d =>
    rw [List.filterMap_cons_some hx, List.getLast?_cons]
    cases (rest.filterMap Step.accepted?).getLast? <;> rfl

theorem latest_append (c : ServiceConfig) (before after : List Step) :
    latest c (before ++ after) = latest (latest c before) after := by
  induction before generalizing c with
  | nil => rfl
  | cons x before ih => rw [List.cons_append, latest_cons, latest_cons, ih]

theorem requestsUnder_cons (c : ServiceConfig) (x : Step) (rest : List Step) :
    requestsUnder c (x :: rest) = x.request? c :: requestsUnder (x.accepted?.getD c) rest := by
  unfold requestsUnder
  rw [List.mapIdx_cons]
  simp only [List.take_zero, List.take_succ_cons, latest_nil, latest_cons]

theorem length_requestsUnder (c : ServiceConfig) (steps : List Step) :
    (requestsUnder c steps).length = steps.length := List.length_mapIdx

theorem requestsUnder_append (c : ServiceConfig) (before after : List Step) :
    requestsUnder c (before ++ after) =
      requestsUnder c before ++ requestsUnder (latest c before) after := by
  induction before generalizing c with
  | nil => rfl
  | cons x before ih =>
    rw [List.cons_append, requestsUnder_cons, requestsUnder_cons, latest_cons, ih,
      List.cons_append]

theorem latest_without {x : Step} (hx : x.accepted? = none) (c : ServiceConfig)
    (before after : List Step) : latest c (before ++ x :: after) = latest c (before ++ after) := by
  rw [latest_append, latest_append, latest_cons, hx]
  rfl

/-- A step that puts no configuration in place leaves the requests of all others as they are. -/
theorem requestsUnder_without {x : Step} (hx : x.accepted? = none) (c : ServiceConfig)
    (before after : List Step) :
    requestsUnder c (before ++ after) =
      (requestsUnder c (before ++ x :: after)).eraseIdx before.length := by
  rw [requestsUnder_append, requestsUnder_append, requestsUnder_cons, hx,
    ← length_requestsUnder c before, List.eraseIdx_append_of_length_le (Nat.le_refl _),
    Nat.sub_self]
  rfl

theorem request?_eq_some_iff {c : ServiceConfig} {x : Step} {r : Request} :
    x.request? c = some r ↔ ∃ p, x.preparation? c = some (.ok p) ∧ requestOf p = .ok r := by
  unfold Step.request?
  rw [Option.bind_eq_some_iff]
  constructor
  · rintro ⟨p, hp, hr⟩
    cases p with
    | error f => cases hr
    | ok p =>
      rw [requestOf?_ok] at hr
      cases ho : requestOf p with
      | error f =>
        rw [ho] at hr
        cases hr
      | ok r' =>
        rw [ho] at hr
        cases hr
        exact ⟨p, hp, ho⟩
  · rintro ⟨p, hp, hr⟩
    refine ⟨_, hp, ?_⟩
    rw [requestOf?_ok, hr]
    rfl

namespace Service

theorem run_cons (s : Service) (x : Step) (rest : List Step) :
    s.run (x :: rest) =
      ((s.step x).1 :: ((s.step x).2.run rest).1, ((s.step x).2.run rest).2) := rfl

theorem run_config (s : Service) (steps : List Step) :
    (s.run steps).2.config = latest s.config steps := by
  induction steps generalizing s with
  | nil => rfl
  | cons x rest ih => rw [run_cons, latest_cons, ← step_config, ih]

theorem run_requests (s : Service) (steps : List Step) :
    (s.run steps).1.map Attempt.request? = requestsUnder s.config steps := by
  induction steps generalizing s with
  | nil => rfl
  | cons x rest ih =>
    rw [run_cons, requestsUnder_cons, List.map_cons, step_request?, ih, step_config]

/-- The replies are taken in turn, one by each request. -/
theorem run_replies (s : Service) (steps : List Step) :
    (s.run steps).2.replies =
      s.replies.drop ((s.run steps).1.filterMap Attempt.request?).length := by
  induction steps generalizing s with
  | nil => rfl
  | cons x rest ih =>
    rw [run_cons, ih, step_replies, List.drop_drop, List.filterMap_cons, step_request?]
    cases x.request? s.config with
    | none => simp
    | some r => simp [Nat.add_comm]

end Service

end AlertRelay.Delivery
