import AlertRelay.Config.Service
import AlertRelay.Proofs.Config.Endpoint

/-!
Which configurations are accepted when they are read: all that are not enabled, and those enabled
ones whose URL events can be sent to.
-/

namespace AlertRelay.Validation.Checked

theorem bind_eq_ok_iff {α β : Type} {x : Checked α} {f : α → Checked β} {b : β} :
    x.bind f = .ok b ↔ ∃ a, x = .ok a ∧ f a = .ok b := by
  cases x with
  | ok a =>
    constructor
    · exact fun h => ⟨a, rfl, h⟩
    · rintro ⟨_, ⟨⟩, h⟩
      exact h
  | problems ps =>
    constructor
    · rintro ⟨⟩
    · rintro ⟨_, ⟨⟩, _⟩

end AlertRelay.Validation.Checked

namespace AlertRelay.Config

open AlertRelay.Validation

/-- A text without characters names no host. -/
theorem IsWebUrl.ne_empty {raw : String} {u : Url} (h : IsWebUrl raw u) : raw ≠ "" := by
  rintro rfl
  obtain ⟨hp, -, hh, -⟩ := h
  cases hp
  exact hh rfl

namespace ServiceConfig

variable {c d : ServiceConfig}

theorem checkUrl_of_disabled (hc : c.enabled = false) : c.checkUrl = .ok c := by
  unfold checkUrl
  rw [hc]
  rfl

theorem checkUrl_of_web (hc : c.enabled = true) {u : Url} (hu : IsWebUrl c.url u) :
    c.checkUrl = .ok c := by
  have hne : c.url.isEmpty = false := by simpa [String.isEmpty_iff] using hu.ne_empty
  unfold checkUrl
  rw [hc, hne, endpoint_eq_ok_iff.mpr hu]
  rfl

theorem checkUrl_of_not_web (hc : c.enabled = true) (hu : ¬ ∃ u, IsWebUrl c.url u) :
    ∃ ps, c.checkUrl = .problems ps := by
  unfold checkUrl
  rw [hc]
  cases c.url.isEmpty with
  | true => exact ⟨_, rfl⟩
  | false =>
    cases he : endpoint c.url with
    | error e => exact ⟨_, rfl⟩
    | ok u => exact absurd ⟨u, endpoint_eq_ok_iff.mp he⟩ hu

theorem checkUrl_eq_ok_iff :
    c.checkUrl = .ok d ↔ d = c ∧ (c.enabled = true → ∃ u, IsWebUrl c.url u) := by
  by_cases hc : c.enabled = true
  · by_cases hu : ∃ u, IsWebUrl c.url u
    · obtain ⟨u, hw⟩ := hu
      rw [checkUrl_of_web hc hw, Checked.ok.injEq]
      exact ⟨fun h => ⟨h.symm, fun _ => ⟨u, hw⟩⟩, fun h => h.1.symm⟩
    · obtain ⟨ps, hps⟩ := checkUrl_of_not_web hc hu
      rw [hps]
      constructor
      · rintro ⟨⟩
      · exact fun h => absurd (h.2 hc) hu
  · rw [checkUrl_of_disabled (by simpa using hc), Checked.ok.injEq]
    exact ⟨fun h => ⟨h.symm, fun h => absurd h hc⟩, fun h => h.1.symm⟩

/-- A configuration that was read from some value. -/
def IsValidated (c : ServiceConfig) : Prop := ∃ v, check v = .ok c

/-- The entries that spell a configuration out. -/
def entries (c : ServiceConfig) : Entries :=
  [("enabled", .bool c.enabled), ("url", .text c.url), ("username", .text c.username),
    ("password", .text c.password), ("source", .text c.source), ("global", .bool c.isGlobal),
    ("state_changes_only", .bool c.stateChangesOnly),
    ("timeout_secs", match c.timeout with | some x => .float x | none => .nil)]

theorem check_entries : check (.map c.entries) = c.checkUrl := by
  obtain ⟨enabled, url, username, password, source, isGlobal, stateChangesOnly, timeout⟩ := c
  cases timeout <;> rfl

theorem isValidated_iff :
    c.IsValidated ↔ (c.enabled = true → ∃ u, IsWebUrl c.url u) := by
  constructor
  · rintro ⟨v, hv⟩
    unfold check at hv
    obtain ⟨es, -, hv⟩ := Checked.bind_eq_ok_iff.mp hv
    obtain ⟨d, -, hd⟩ := Checked.bind_eq_ok_iff.mp hv
    obtain ⟨rfl, hw⟩ := checkUrl_eq_ok_iff.mp hd
    exact hw
  · intro hw
    exact ⟨.map c.entries, check_entries.trans (checkUrl_eq_ok_iff.mpr ⟨rfl, hw⟩)⟩

end ServiceConfig

end AlertRelay.Config
