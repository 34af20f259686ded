import AlertRelay.Config.Endpoint

/-!
Which texts name an address that events can be sent to.
-/

namespace AlertRelay.Config

/-- An absolute URL of the web, the host of which stands for a name. -/
structure IsWebUrl (raw : String) (u : Url) : Prop where
  parse : Url.parse raw = .ok u
  scheme : u.scheme = "http".toList ∨ u.scheme = "https".toList
  host : u.host ≠ []
  named : u.checkHost = .ok ()

theorem isWeb_iff (u : Url) :
    u.isWeb = true ↔ u.scheme = "http".toList ∨ u.scheme = "https".toList := by
  unfold Url.isWeb
  rw [Bool.or_eq_true, beq_iff_eq, beq_iff_eq]

theorem endpoint_eq_ok_iff {raw : String} {u : Url} : endpoint raw = .ok u ↔ IsWebUrl raw u := by
  unfold endpoint
  constructor
  · intro h
    split at h
    · cases h
    · next u' hp =>
      split at h
      · cases h
      · next hw =>
        split at h
        · cases h
        · next hc =>
          split at h
          · cases h
          · next hh =>
            cases h
            rw [Bool.not_eq_true', Bool.not_eq_false, isWeb_iff] at hw
            exact ⟨hp, hw, by simpa using hh, hc⟩
  · rintro ⟨hp, hs, hh, hc⟩
    have hw := (isWeb_iff u).mpr hs
    have hh : u.host.isEmpty = false := by simpa using hh
    simp [hp, hw, hc, hh]

theorem endpoint_eq_host_iff {raw : String} {e : Url.LabelError} :
    endpoint raw = .error (.host e) ↔
      ∃ u, Url.parse raw = .ok u ∧ u.isWeb = true ∧ u.checkHost = .error e := by
  unfold endpoint
  constructor
  · intro h
    split at h
    · cases h
    · next u hp =>
      split at h
      · cases h
      · next hw =>
        split at h
        · next hc =>
          cases h
          exact ⟨u, hp, by simpa using hw, hc⟩
        · split at h <;> cases h
  · rintro ⟨u, hp, hw, hc⟩
    simp [hp, hw, hc]

end AlertRelay.Config
