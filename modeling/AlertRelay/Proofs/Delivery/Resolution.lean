import AlertRelay.Proofs.Delivery.Preparation
import AlertRelay.Proofs.Delivery.Sending
import AlertRelay.Proofs.Url.Rereading

/-!
The URL of an alert is resolved once when the request is prepared, and read once more by the
client. Both give the same URL for one that is stable, and for no other.
-/

namespace AlertRelay.Delivery

open AlertRelay.Alert AlertRelay.Config AlertRelay.Text

variable {raw : String} {u v : Url} {p : Post}

theorem isNormal_of_endpoint (h : endpoint raw = .ok u) : u.IsNormal :=
  have hw := endpoint_eq_ok_iff.mp h
  Url.isNormal_of_parse hw.parse hw.host hw.scheme

theorem endpoint_text (h : endpoint raw = .ok u) (hs : u.IsStable) : endpoint u.text = .ok u :=
  have hw := endpoint_eq_ok_iff.mp h
  endpoint_eq_ok_iff.mpr ⟨(isNormal_of_endpoint h).parse_text hs, hw.scheme, hw.host, hw.named⟩

/-- Whatever request is made of a prepared one, it goes to a URL with the prepared text only if it
goes to the prepared URL. -/
theorem url_eq_of_text_eq {r : Request} (h : endpoint raw = .ok u) (hp : p.url = u.text)
    (hr : requestOf p = .ok r) (htext : r.url.text = u.text) : r.url = u := by
  have hparse := (completes_of_requestOf hr).url
  have hnormal := isNormal_of_endpoint h
  rw [hp] at hparse
  rw [hnormal.parse_text (hnormal.isStable hparse htext)] at hparse
  exact (Except.ok.inj hparse).symm

theorem url_prepare {c : ServiceConfig} {url : String} {o : Occurrence} {x : HandlerConfig}
    (h : endpoint (urlOf c url) = .ok u) (hp : prepare c url o x = .ok p) : p.url = u.text := by
  have hprepares := prepares_prepare c url o x
  rw [hp] at hprepares
  generalize hq : Except.ok p = q at hprepares
  cases hprepares with
  | filled _ hw _ _ =>
    cases hq
    rw [endpoint_eq_ok_iff.mpr hw] at h
    exact congrArg Url.text (Except.ok.inj h)
  | disabled _ => cases hq
  | endpoint _ _ => cases hq
  | template _ _ _ => cases hq

theorem notices_attempt (replies : Replies) {n : Notice}
    (hn : n ∈ (attempt (.ok p) replies).1.notices) : n = .sent p.url := by
  cases hr : requestOf p with
  | error f =>
    rw [attempt_refused hr] at hn
    cases hn
  | ok r =>
    rw [attempt_made hr] at hn
    generalize replies.next.1 = reply at hn
    cases reply with
    | fault f headers => cases hn
    | answer status body headers =>
      unfold send at hn
      dsimp only at hn
      split at hn
      · exact List.mem_singleton.mp hn
      · cases hn

/-- A URL of the web that was resolved once is resolved to itself exactly if it is stable. Then the
request that is prepared and logged with its text is also made to it, unless its host holds a
character outside ASCII; in all other cases the client refuses the URL or asks for another one. -/
theorem resolved_again (h : endpoint raw = .ok u) :
    (u.IsStable → endpoint u.text = .ok u) ∧
      (∀ v, endpoint u.text = .ok v → v.text = u.text → u.IsStable) ∧
      ∀ c url o x p, urlOf c url = raw → prepare c url o x = .ok p → ∀ replies,
        let a := (attempt (.ok p) replies).1
        p.url = u.text ∧ (∀ n ∈ a.notices, n = .sent u.text) ∧
          (a.request?.map Request.url = some u ↔
            u.IsStable ∧ ∀ c ∈ u.hostText, isAscii c = true) ∧
          ∀ r ∈ a.request?, r.url.text = u.text → r.url = u := by
  refine ⟨endpoint_text h, fun v hv htext => ?_, ?_⟩
  · exact (isNormal_of_endpoint h).isStable (endpoint_eq_ok_iff.mp hv).parse htext
  · rintro c url o x p rfl hp replies
    have hurl := url_prepare h hp
    have hmade : ∀ r, (attempt (.ok p) replies).1.request? = some r ↔ requestOf p = .ok r := by
      intro r
      rw [request?_attempt, requestOf?_ok]
      cases requestOf p <;> simp [Except.toOption]
    refine ⟨hurl, fun n hn => hurl ▸ notices_attempt replies hn, ?_, fun r hr htext => ?_⟩
    · rw [Option.map_eq_some_iff, ← (isNormal_of_endpoint h).parse_text_self_iff, ← hurl,
        ← exists_requestOf_iff]
      simp only [hmade]
    · exact url_eq_of_text_eq h hurl ((hmade r).mp hr) htext

/-- Capitals, a user, a port of its own, two dots, and characters that are escaped. -/
theorem resolved_again_escaped :
    let raw := "HTTPS://Ops@EXAMPLE.org:8443/a/../b c?q=é#f"
    let c := { ServiceConfig.default with enabled := true }
    let u : Url := ⟨"https".toList, "Ops".toList, "example.org".toList, some 8443,
      "/b%20c".toList, some "q=%C3%A9".toList, some "f".toList⟩
    endpoint raw = .ok u ∧ endpoint u.text = .ok u ∧ u.IsStable ∧
      ∃ p n r, prepare c raw ⟨"a1", "m", 3, .empty⟩ .empty = .ok p ∧ p.url = u.text ∧
        n ∈ (attempt (.ok p) []).1.notices ∧ n = .sent u.text ∧
        (attempt (.ok p) []).1.request? = some r ∧ r.url.text = u.text ∧ r.url = u := by
  intro raw c u
  have h : endpoint raw = .ok u := by decide +kernel
  obtain ⟨hresolved, hstable, hsent⟩ := resolved_again h
  have hu : u.IsStable := hstable u (by decide +kernel) rfl
  cases hp : prepare c raw ⟨"a1", "m", 3, .empty⟩ .empty with
  | error f =>
    have hmade : (prepare c raw ⟨"a1", "m", 3, .empty⟩ .empty).toOption.isSome = true := by
      decide +kernel
    rw [hp] at hmade
    cases hmade
  | ok p =>
    obtain ⟨hurl, hnotices, hrequest, hkept⟩ := hsent c raw _ _ p rfl hp []
    have hone : (attempt (prepare c raw ⟨"a1", "m", 3, .empty⟩ .empty) []).1.notices.length =
        1 := by decide +kernel
    rw [hp] at hone
    obtain ⟨n, hn⟩ := List.length_eq_one_iff.mp hone
    have hmem : n ∈ (attempt (.ok p) []).1.notices := hn ▸ List.mem_cons_self
    have hascii : ∀ c ∈ u.hostText, isAscii c = true := List.all_eq_true.mp (by decide +kernel)
    obtain ⟨r, hr, hru⟩ := Option.map_eq_some_iff.mp (hrequest.mpr ⟨hu, hascii⟩)
    have htext : r.url.text = u.text := congrArg Url.text hru
    exact ⟨h, hresolved hu, hu, p, n, r, rfl, hurl, hmem, hnotices n hmem, hr, htext,
      hkept r hr htext⟩

/-- A port that goes without saying is seen only once the scheme is in small letters: it is
prepared and logged, and it is not in what is asked for. -/
theorem default_port_dropped :
    let a := (attempt (prepare { ServiceConfig.default with enabled := true }
      "HTTP://sn.example:80/" ⟨"a1", "m", 3, .empty⟩ .empty) []).1
    (endpoint "HTTP://sn.example:80/").toOption.map Url.text = some "http://sn.example:80/" ∧
      (endpoint "http://sn.example:80/").toOption.map Url.text = some "http://sn.example/" ∧
      a.notices = [.sent "http://sn.example:80/"] ∧
      a.request?.map (·.url.text) = some "http://sn.example/" :=
  ⟨by decide +kernel, by decide +kernel, by with_unfolding_all rfl, by decide +kernel⟩

end AlertRelay.Delivery
