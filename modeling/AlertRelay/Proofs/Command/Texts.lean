import AlertRelay.Log.Sink
import AlertRelay.Proofs.Command.Words
import AlertRelay.Proofs.Result

/-!
What arguments ask for. Those that ask for an alert are options with a text each, and an option
comes to the text that it was given last.
-/

namespace AlertRelay.Command

open AlertRelay.Alert AlertRelay.Delivery AlertRelay.Text

/-- Texts that are given to options, in turn. -/
abbrev OptTexts := List (Opt × String)

/-- Arguments that give texts to options and do nothing else. An option and its text are joined by
an equals sign, or stand apart; then the text must not look like an option. -/
inductive Gives : List String → OptTexts → Prop where
  | nil : Gives [] []
  | joined {name s o args gs} (calls : Calls name o)
      (dashes : startsWith ['-', '-'] name.toList = true) (rest : Gives args gs) :
      Gives ((name ++ "=" ++ s) :: args) ((o, s) :: gs)
  | apart {arg s o args gs} (calls : Calls arg o) (not_help : o ≠ .help)
      (plain : wordOf s = .ok (.plain s)) (rest : Gives args gs) :
      Gives (arg :: s :: args) ((o, s) :: gs)

theorem wordsOf_cons {arg : String} (h : arg ≠ "--") (args : List String) :
    wordsOf (arg :: args) = do
      let w ← wordOf arg
      let ws ← wordsOf args
      return w :: ws := by
  rw [wordsOf, if_neg (by simpa using h)]

theorem wordsOf_cons_eq_ok {arg : String} {w : Word} {args : List String} {ws : List Word}
    (hw : wordOf arg = .ok w) (hws : wordsOf args = .ok ws) :
    wordsOf (arg :: args) = .ok (w :: ws) := by
  rw [wordsOf_cons (ne_dashes_of_wordOf hw), hw, hws]
  rfl

/-- Puts texts in the places of their options, one after the other. -/
def setOptions (a : Arguments) (gs : OptTexts) : Except Misuse Arguments :=
  gs.foldlM (fun a g => setOption a g.1 g.2) a

theorem setOptions_cons (a : Arguments) (o : Opt) (s : String) (gs : OptTexts) :
    setOptions a ((o, s) :: gs) = (setOption a o s).bind fun b => setOptions b gs := rfl

/-- Arguments that give texts to options are read by putting these in their places. -/
theorem Gives.read {args : List String} {gs : OptTexts} (h : Gives args gs) :
    ∃ ws, wordsOf args = .ok ws ∧
      ∀ a, readWords a [] ws = (setOptions a gs).map Asked.send := by
  induction h with
  | nil => exact ⟨[], rfl, fun a => rfl⟩
  | @joined name s o args gs calls dashes rest ih =>
    obtain ⟨ws, hws, hread⟩ := ih
    refine ⟨_, wordsOf_cons_eq_ok (wordOf_joined calls dashes s) hws, fun a => ?_⟩
    rw [readWords, setOptions_cons]
    cases setOption a o s with
    | ok b => exact hread b
    | error e => rfl
  | @apart arg s o args gs calls not_help plain rest ih =>
    obtain ⟨ws, hws, hread⟩ := ih
    refine ⟨_, wordsOf_cons_eq_ok (wordOf_of_calls calls) (wordsOf_cons_eq_ok plain hws),
      fun a => ?_⟩
    rw [readWords, setOptions_cons]
    · cases setOption a o s with
      | ok b => exact hread b
      | error e => rfl
    · exact not_help

theorem Gives.readArguments_eq {args : List String} {gs : OptTexts} (h : Gives args gs) :
    readArguments args = (setOptions .default gs).map Asked.send := by
  obtain ⟨ws, hws, hread⟩ := h.read
  rw [← hread, readArguments, hws]
  rfl

theorem wordsOf_eq_nil {args : List String} (h : wordsOf args = .ok []) : args = [] := by
  cases args with
  | nil => rfl
  | cons arg args =>
    by_cases hd : arg = "--"
    · rw [wordsOf, if_pos (beq_iff_eq.mpr hd)] at h
      cases h
    · rw [wordsOf_cons hd] at h
      obtain ⟨w, -, h⟩ := bind_eq_ok_iff.mp h
      obtain ⟨ws, -, h⟩ := bind_eq_ok_iff.mp h
      cases h

/-- A word that may be an option, or its text, comes from the first argument. -/
theorem exists_of_wordsOf {args : List String} {w : Word} {ws : List Word}
    (h : wordsOf args = .ok (w :: ws)) (hw : ∀ s, w ≠ .unknown s) :
    ∃ arg rest, args = arg :: rest ∧ wordOf arg = .ok w ∧ wordsOf rest = .ok ws := by
  cases args with
  | nil => cases h
  | cons arg args =>
    by_cases hd : arg = "--"
    · rw [wordsOf, if_pos (beq_iff_eq.mpr hd)] at h
      cases h
      exact absurd rfl (hw arg)
    · rw [wordsOf_cons hd] at h
      obtain ⟨w', hw', h⟩ := bind_eq_ok_iff.mp h
      obtain ⟨ws', hws, h⟩ := bind_eq_ok_iff.mp h
      cases h
      exact ⟨arg, args, rfl, hw', hws⟩

/-- Arguments that ask for an alert give texts to options, and nothing else is among them. -/
theorem exists_gives_of_readWords {a b : Arguments} {extra : List String} {ws : List Word}
    (h : readWords a extra ws = .ok (.send b)) :
    extra = [] ∧ ∀ args, wordsOf args = .ok ws → ∃ gs, Gives args gs := by
  fun_induction readWords a extra ws with
  | case1 a extra he =>
    refine ⟨List.isEmpty_iff.mp he, fun args hargs => ?_⟩
    rw [wordsOf_eq_nil hargs]
    exact ⟨[], .nil⟩
  | case3 a extra s rest ih => cases (ih h).1
  | case4 a extra s rest ih => cases (ih h).1
  | case7 a extra o s rest b hset ih =>
    obtain ⟨hextra, hrest⟩ := ih h
    refine ⟨hextra, fun args hargs => ?_⟩
    obtain ⟨arg, args, rfl, hw, hws⟩ := exists_of_wordsOf hargs nofun
    obtain ⟨gs, hgs⟩ := hrest args hws
    obtain ⟨-, ⟨⟩⟩ | ⟨name, t, rfl, hcalls, hdashes, ⟨⟩⟩ := of_wordOf hw
    exact ⟨_, .joined hcalls hdashes hgs⟩
  | case10 a extra o s rest hhelp b hset ih =>
    obtain ⟨hextra, hrest⟩ := ih h
    refine ⟨hextra, fun args hargs => ?_⟩
    obtain ⟨arg, args, rfl, hw, hws⟩ := exists_of_wordsOf hargs nofun
    obtain ⟨arg', args, rfl, hplain, hws⟩ := exists_of_wordsOf hws nofun
    obtain ⟨gs, hgs⟩ := hrest args hws
    obtain ⟨hcalls, -⟩ | ⟨_, _, -, -, -, ⟨⟩⟩ := of_wordOf hw
    cases eq_of_wordOf_plain hplain
    exact ⟨_, .apart hcalls hhelp hplain hgs⟩
  | _ => cases h

/-- The arguments that ask for an alert are those that give texts to options, each of which fits its
option. -/
theorem readArguments_eq_send_iff {args : List String} {a : Arguments} :
    readArguments args = .ok (.send a) ↔
      ∃ gs, Gives args gs ∧ setOptions .default gs = .ok a := by
  constructor
  · intro h
    obtain ⟨ws, hws, hread⟩ := bind_eq_ok_iff.mp h
    obtain ⟨gs, hgs⟩ := (exists_gives_of_readWords hread).2 args hws
    rw [hgs.readArguments_eq] at h
    obtain ⟨b, hb, ⟨⟩⟩ := map_eq_ok h
    exact ⟨gs, hgs, hb⟩
  · rintro ⟨gs, hgs, ha⟩
    rw [hgs.readArguments_eq, ha]
    rfl

/-!
What the texts come to.
-/

/-- The text of an option: the one that is given to it last, or else the one by default. -/
def textFor (gs : OptTexts) (o : Opt) (default : String) : String :=
  ((gs.filter (·.1 == o)).getLast?.map Prod.snd).getD default

theorem textFor_cons (p : Opt) (s : String) (gs : OptTexts) (o : Opt) (default : String) :
    textFor ((p, s) :: gs) o default = textFor gs o (if p = o then s else default) := by
  unfold textFor
  by_cases h : p = o
  · rw [List.filter_cons_of_pos (by simpa using h), List.getLast?_cons, if_pos h]
    cases (gs.filter (·.1 == o)).getLast? <;> rfl
  · rw [List.filter_cons_of_neg (by simpa using h), if_neg h]

/-- What changes where a text is put in the place of an option. -/
structure Puts (a : Arguments) (p : Opt) (s : String) (b : Arguments) : Prop where
  logLevel : b.logLevel = if p = .logLevel then some (OptValue.ofText s) else a.logLevel
  id : b.id = if p = .alertId then OptValue.ofText s else a.id
  source : b.source = if p = .source then OptValue.ofText s else a.source
  message : b.message = if p = .message then OptValue.ofText s else a.message
  level : if p = .level then levelOfText s = .ok b.level else b.level = a.level

theorem puts_of_setOption {a b : Arguments} {p : Opt} {s : String}
    (h : setOption a p s = .ok b) : Puts a p s b := by
  cases p with
  | help => cases h
  | level =>
    obtain ⟨l, hl, rfl⟩ := map_eq_ok h
    exact ⟨rfl, rfl, rfl, rfl, hl⟩
  | _ =>
    cases h
    exact ⟨rfl, rfl, rfl, rfl, rfl⟩

/-- What holds of the default of an option and is brought about by each of its texts holds of the
last one in the end. -/
theorem holds_of_setOptions {β : Type} {field : Arguments → β} {o : Opt} {R : String → β → Prop}
    (hput : ∀ {a p s b}, Puts a p s b → if p = o then R s (field b) else field b = field a)
    {a b : Arguments} {gs : OptTexts} {default : String} (hd : R default (field a))
    (h : setOptions a gs = .ok b) : R (textFor gs o default) (field b) := by
  induction gs generalizing a default with
  | nil =>
    cases h
    exact hd
  | cons g gs ih =>
    obtain ⟨p, s⟩ := g
    rw [setOptions_cons] at h
    obtain ⟨c, hc, h⟩ := bind_eq_ok_iff.mp h
    have hput := hput (puts_of_setOption hc)
    rw [textFor_cons]
    refine ih ?_ h
    by_cases hp : p = o
    · rw [if_pos hp] at hput ⊢
      exact hput
    · rw [if_neg hp] at hput ⊢
      rw [hput]
      exact hd

/-- The last text stays in a field that takes texts as they are. -/
theorem text_of_setOptions {field : Arguments → OptValue String} {o : Opt}
    (hput : ∀ {a p s b}, Puts a p s b → field b = if p = o then .ofText s else field a)
    {a b : Arguments} {gs : OptTexts} {default : String} (hd : field a = .ofText default)
    (h : setOptions a gs = .ok b) : field b = .ofText (textFor gs o default) :=
  holds_of_setOptions (R := fun s v => v = OptValue.ofText s)
    (fun hp => by rw [hput hp]; split <;> rfl) hd h

/-- Options that some texts ask for. Two dashes on their own are no text. -/
structure Asks (gs : OptTexts) (o : TestOptions) : Prop where
  id : textFor gs .alertId TestOptions.default.id = o.id
  source : textFor gs .source TestOptions.default.source = o.source
  level : Level.ofName? (textFor gs .level TestOptions.default.level.name) = some o.level
  message : textFor gs .message TestOptions.default.message = o.message
  proper : "--" ∉ [o.id, o.source, o.message]

/-- A text, or else a setting in its place if it is empty or two dashes. -/
def textOr (s setting : String) : String := if s = "" ∨ s = "--" then setting else s

/-- The level from which entries are logged: the one given for it, or else that of the settings. -/
def levelName (gs : OptTexts) (setting : String) : String :=
  textOr (textFor gs .logLevel "") setting

theorem ofText_eq_one_iff {s t : String} : OptValue.ofText s = .one t ↔ s = t ∧ t ≠ "--" := by
  unfold OptValue.ofText
  by_cases h : s = "--"
  · rw [if_pos (beq_iff_eq.mpr h)]
    constructor
    · rintro ⟨⟩
    · rintro ⟨rfl, hne⟩
      exact absurd h hne
  · rw [if_neg (by simpa using h), OptValue.one.injEq]
    constructor
    · rintro rfl
      exact ⟨rfl, h⟩
    · exact fun ⟨hs, _⟩ => hs

theorem levelOfText_eq_one_iff {s : String} {l : Level} :
    levelOfText s = .ok (.one l) ↔ Level.ofName? s = some l := by
  unfold levelOfText OptValue.ofText
  by_cases h : s = "--"
  · subst h
    simp [show Level.ofName? "--" = none by decide]
  · rw [if_neg (by simpa using h)]
    dsimp only
    cases Level.ofName? s with
    | none => simp
    | some l' => simp

theorem options_eq_ok_iff {a : Arguments} {o : TestOptions} :
    a.options = .ok o ↔ a.id = .one o.id ∧ a.source = .one o.source ∧ a.level = .one o.level ∧
      a.message = .one o.message := by
  obtain ⟨config, logLevel, id, source, level, message⟩ := a
  constructor
  · intro h
    cases level with
    | nothing => cases h
    | one l =>
      cases id <;> cases source <;> cases message <;> cases h
      exact ⟨rfl, rfl, rfl, rfl⟩
  · rintro ⟨rfl, rfl, rfl, rfl⟩
    rfl

section Last

variable {a : Arguments} {gs : OptTexts}

/-- The options that arguments make are those that their texts ask for. -/
theorem options_iff_asks (h : setOptions .default gs = .ok a) {o : TestOptions} :
    a.options = .ok o ↔ Asks gs o := by
  have hid : a.id = .ofText (textFor gs .alertId TestOptions.default.id) :=
    text_of_setOptions Puts.id rfl h
  have hsource : a.source = .ofText (textFor gs .source TestOptions.default.source) :=
    text_of_setOptions Puts.source rfl h
  have hmessage : a.message = .ofText (textFor gs .message TestOptions.default.message) :=
    text_of_setOptions Puts.message rfl h
  have hlevel : levelOfText (textFor gs .level TestOptions.default.level.name) = .ok a.level :=
    holds_of_setOptions (R := fun s v => levelOfText s = .ok v) (fun hp => hp.level) rfl h
  rw [options_eq_ok_iff, hid, hsource, hmessage, ofText_eq_one_iff, ofText_eq_one_iff,
    ofText_eq_one_iff]
  constructor
  · rintro ⟨⟨hi, hi'⟩, ⟨hs, hs'⟩, hl, hm, hm'⟩
    rw [hl, levelOfText_eq_one_iff] at hlevel
    exact ⟨hi, hs, hlevel, hm, by simp [hi'.symm, hs'.symm, hm'.symm]⟩
  · rintro ⟨hi, hs, hl, hm, hproper⟩
    rw [levelOfText_eq_one_iff.mpr hl] at hlevel
    simp only [List.mem_cons, List.not_mem_nil, or_false, not_or] at hproper
    obtain ⟨hi', hs', hm'⟩ := hproper
    exact ⟨⟨hi, Ne.symm hi'⟩, ⟨hs, Ne.symm hs'⟩, (Except.ok.inj hlevel).symm, hm, Ne.symm hm'⟩

theorem choose_ofText (s setting : String) :
    Log.Sink.choose (OptValue.ofText s).get? setting = textOr s setting := by
  unfold textOr
  by_cases h : s = "--"
  · subst h
    rfl
  · rw [ofText_eq_one_iff.mpr ⟨rfl, h⟩]
    simp [OptValue.get?, Log.Sink.choose, h]

/-- The log goes by the level that the texts give, if they do. -/
theorem choose_threshold (h : setOptions .default gs = .ok a) (setting : String) :
    Log.Sink.choose a.threshold setting = levelName gs setting := by
  let R (s : String) (v : Option (OptValue String)) : Prop :=
    Log.Sink.choose (v.bind OptValue.get?) setting = textOr s setting
  have hlast : R (textFor gs .logLevel "") a.logLevel :=
    holds_of_setOptions (fun hp => by
      rw [hp.logLevel]
      split
      · exact choose_ofText _ setting
      · rfl) rfl h
  exact hlast

end Last

end AlertRelay.Command
