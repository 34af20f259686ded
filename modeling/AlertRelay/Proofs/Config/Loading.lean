import AlertRelay.Config.Settings
import AlertRelay.Proofs.Config.Files

/-!
What a load reads: the settings that the text at a path stands for, those by default where there is
no file, or one of the failures.
-/

namespace AlertRelay.Config

open AlertRelay.Validation

/-- A part of the settings: what is under its key, or the default. -/
def IsPart {α : Type} (es : Entries) (key : String) (default : α) (check : Value → Checked α)
    (a : α) : Prop :=
  match Value.find? key es with
  | some v => check v = .ok a
  | none => a = default

structure AreSettings (es : Entries) (x : Settings) : Prop where
  service : IsPart es "servicenow" ServiceConfig.default ServiceConfig.check x.service
  logging : IsPart es "logging" LoggingConfig.default LoggingConfig.check x.logging

/-- What the text of a file comes to. -/
inductive Means (text : String) : Except LoadError Settings → Prop
  | broken {e} : Yaml.Content.ofText (String.ofList (plainLines text.toList)) = .error e →
      Means text (.error (.yaml e))
  | foreign {content} :
      Yaml.Content.ofText (String.ofList (plainLines text.toList)) = .ok content →
      content.foreignKey = true → Means text (.error .foreignKey)
  | invalid {content ps} :
      Yaml.Content.ofText (String.ofList (plainLines text.toList)) = .ok content →
      content.foreignKey = false → (∀ x, ¬ AreSettings content.entries x) →
      Settings.check content.entries = .problems ps → Means text (.error (.invalid ps))
  | valid {content x} :
      Yaml.Content.ofText (String.ofList (plainLines text.toList)) = .ok content →
      content.foreignKey = false → AreSettings content.entries x → Means text (.ok x)

/-- The path that is read when some path or none is asked for. -/
inductive IsPathFor : Option String → String → Prop
  | none : IsPathFor none "config/settings.yaml"
  | empty : IsPathFor (some "") "config/settings.yaml"
  | given {path} : path ≠ "" → IsPathFor (some path) (plainPath path)

/-- What is read when some path or none is asked for. -/
inductive Reads (files : Files) (asked : Option String) : Except LoadError Settings → Prop
  | file {path text r} : IsPathFor asked path → files path = .file text → Means text r →
      Reads files asked r
  | nothing {path} : IsPathFor asked path → files path = .nothing →
      Reads files asked (.ok ⟨ServiceConfig.default, LoggingConfig.default⟩)
  | directory {path} : IsPathFor asked path → files path = .directory →
      Reads files asked (.error (.directory path))
  | tooLong {path} : IsPathFor asked path → files path = .tooLong →
      Reads files asked (.error (.longPath path))

section

variable {α β : Type} {es : Entries} {key : String} {default a : α} {check : Value → Checked α}

theorem isPart_iff : IsPart es key default check a ↔
    optionalField es [key] default check = .ok a := by
  unfold IsPart optionalField firstPresent firstPresent
  cases Value.find? key es with
  | none => simp [eq_comm]
  | some v =>
    dsimp only
    cases check v with
    | ok b => rfl
    | problems ps => exact ⟨nofun, nofun⟩

end

variable {es : Entries} {x : Settings} {text path : String} {asked : Option String} {files : Files}
variable {r : Except LoadError Settings}

theorem areSettings_iff : AreSettings es x ↔ Settings.check es = .ok x := by
  have hparts : AreSettings es x ↔
      optionalField es ["servicenow"] ServiceConfig.default ServiceConfig.check = .ok x.service ∧
      optionalField es ["logging"] LoggingConfig.default LoggingConfig.check = .ok x.logging := by
    rw [← isPart_iff, ← isPart_iff]
    exact ⟨fun h => ⟨h.service, h.logging⟩, fun h => ⟨h.1, h.2⟩⟩
  rw [hparts]
  unfold Settings.check
  generalize optionalField es ["servicenow"] _ _ = service,
    optionalField es ["logging"] _ _ = logging
  obtain ⟨y, z⟩ := x
  constructor
  · rintro ⟨rfl, rfl⟩
    rfl
  · intro h
    cases service with
    | problems ps => cases logging <;> cases h
    | ok y' =>
      cases logging with
      | problems ps => cases h
      | ok z' =>
        cases h
        exact ⟨rfl, rfl⟩

theorem means_ofText (text : String) : Means text (Settings.ofText text) := by
  unfold Settings.ofText
  split
  · next e hbroken => exact .broken hbroken
  · next content hcontent =>
    split
    · next hforeign => exact .foreign hcontent hforeign
    · next hforeign =>
      have hnone : content.foreignKey = false := by simpa using hforeign
      cases hcheck : Settings.check content.entries with
      | ok x => exact .valid hcontent hnone (areSettings_iff.mpr hcheck)
      | problems ps =>
        refine .invalid hcontent hnone (fun x hx => ?_) hcheck
        cases hcheck.symm.trans (areSettings_iff.mp hx)

theorem Means.eq_ofText (h : Means text r) : r = Settings.ofText text := by
  unfold Settings.ofText
  cases h with
  | broken hbroken => rw [hbroken]
  | foreign hcontent hforeign =>
    rw [hcontent]
    exact (if_pos hforeign).symm
  | invalid hcontent hnone _ hcheck =>
    rw [hcontent]
    dsimp only
    rw [if_neg (by simp [hnone]), hcheck]
  | valid hcontent hnone hx =>
    rw [hcontent]
    dsimp only
    rw [if_neg (by simp [hnone]), areSettings_iff.mp hx]

theorem isPathFor_iff : IsPathFor asked path ↔ path = pathFor asked := by
  constructor
  · intro h
    cases h with
    | none | empty => rfl
    | given hne => exact (if_neg (by simpa [String.isEmpty_iff] using hne)).symm
  · rintro rfl
    cases asked with
    | none => exact .none
    | some p =>
      by_cases hp : p = ""
      · subst hp
        exact .empty
      · rw [pathFor, if_neg (by simpa [String.isEmpty_iff] using hp)]
        exact .given hp

/-- Exactly one thing is read. -/
theorem reads_iff : Reads files asked r ↔ r = readSettings files asked := by
  unfold readSettings
  constructor
  · intro h
    cases h with
    | file hp hfile hmeans =>
      cases isPathFor_iff.mp hp
      dsimp only
      rw [hfile]
      exact hmeans.eq_ofText
    | nothing hp hfile =>
      cases isPathFor_iff.mp hp
      dsimp only
      rw [hfile]
      rfl
    | directory hp hfile | tooLong hp hfile =>
      cases isPathFor_iff.mp hp
      dsimp only
      rw [hfile]
  · rintro rfl
    have hp : IsPathFor asked (pathFor asked) := isPathFor_iff.mpr rfl
    dsimp only
    cases hfile : files (pathFor asked) with
    | nothing => exact .nothing hp hfile
    | directory => exact .directory hp hfile
    | tooLong => exact .tooLong hp hfile
    | file text => exact .file hp hfile (means_ofText text)

theorem reads_of_file (hp : IsPathFor asked path) (hfile : files path = .file text) :
    Reads files asked r ↔ Means text r := by
  refine ⟨fun h => ?_, .file hp hfile⟩
  rw [reads_iff.mp h, readSettings, ← isPathFor_iff.mp hp, hfile]
  exact means_ofText text

end AlertRelay.Config
