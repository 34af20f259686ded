import AlertRelay.Proofs.Template.Fields
import AlertRelay.Proofs.Template.Parallel
import AlertRelay.Template.Basic

/-!
A template depends on no field of the record but those it names. The record itself is within reach
of a template as `$`, and as the current value outside of the bodies that have one of their own.
-/

namespace AlertRelay

/-- Two records that differ in one field at most. -/
def Record.AgreesOff (F : Record.Field) (r r' : Record) : Prop :=
  ∀ G, G ≠ F → G.value r = G.value r'

namespace Template

open AlertRelay.Value

variable {F : Record.Field} {r r' : Record}

theorem fieldOf_eq_of_agreesOff (h : r.AgreesOff F r') {name : String} (hn : name ≠ F.key) :
    fieldOf r.toValue name = fieldOf r'.toValue name := by
  obtain ⟨G, hkey, hG⟩ | hnone := fieldOf_record name
  · have hne : G ≠ F := fun he => hn (he ▸ hkey)
    rw [hG, hG, h G hne]
  · rw [hnone, hnone]
    rfl

theorem chainOf_eq_of_agreesOff (h : r.AgreesOff F r') {names : List String} (hne : names ≠ [])
    (hn : F.key ∉ names) : chainOf r.toValue names = chainOf r'.toValue names := by
  cases names with
  | nil => exact absurd rfl hne
  | cons name names =>
    have hname : name ≠ F.key := fun hname => hn (hname ▸ List.mem_cons_self ..)
    rw [chainOf, chainOf, fieldOf_eq_of_agreesOff h hname]

/-- An operand that reads neither the field nor, unless it stands inside a body with a current value
of its own, the record as a whole. -/
def Operand.Spares (F : Record.Field) (inner : Bool) : Operand → Prop
  | .field fromRoot names => F.key ∉ names ∧ (names = [] → fromRoot = false ∧ inner = true)
  | .dot => inner = true
  | _ => True

/-- No `$` alone, no chain with the field's name, and no dot alone but in the body of a `with` or a
`range`. -/
def Spares (F : Record.Field) (t : Template) : Prop := allNodes (Operand.Spares F) false t.nodes

/-- Current values of two runs: the records themselves, or one value in a body that has its own. -/
def Current (r r' : Record) (inner : Bool) (d d' : Value) : Prop :=
  if inner then d = d' else d = r.toValue ∧ d' = r'.toValue

theorem chainOf_eq_of_current (h : r.AgreesOff F r') {inner fromRoot : Bool} {names : List String}
    {d d' : Value} (hs : (Operand.field fromRoot names).Spares F inner)
    (hd : Current r r' inner d d') :
    chainOf (if fromRoot then r.toValue else d) names =
      chainOf (if fromRoot then r'.toValue else d') names := by
  obtain ⟨hn, hwhole⟩ := hs
  -- A chain that starts from the record has a name, since the record as a whole is out of reach.
  have hrecord (hne : names ≠ []) := chainOf_eq_of_agreesOff h hne hn
  cases fromRoot with
  | true => exact hrecord fun hnil => nomatch (hwhole hnil).1
  | false =>
    cases inner with
    | true => exact congrArg (chainOf · names) hd
    | false =>
      obtain ⟨rfl, rfl⟩ := hd
      exact hrecord fun hnil => nomatch (hwhole hnil).2

theorem parallel_agreesOff (h : r.AgreesOff F r') :
    Parallel r.toValue r'.toValue (Operand.Spares F) (Current r r') Eq Eq where
  enter hv := hv
  dot {inner _ _} hs hd := by
    cases inner with
    | true => exact hd
    | false => cases hs
  constant _ := rfl
  field hs hd := agrees_eq.mpr (chainOf_eq_of_current h hs hd)
  call f hvs := by
    rw [List.forall₂_eq_eq_eq] at hvs
    exact agrees_eq.mpr (congrArg (call f) hvs)
  truth hv := congrArg truth hv
  steps {v w} site hv := by
    obtain rfl := hv
    cases elements site v with
    | ok vs => exact .ok (List.forall₂_refl vs)
    | error f => exact .error rfl
  writeValue hv := congrArg Template.writeValue hv
  write _ := rfl
  fail _ _ := rfl
  append h h' := by rw [h, h']

theorem run_eq_of_agreesOff (t : Template) (hs : t.Spares F) (h : r.AgreesOff F r') :
    t.run r.toValue = t.run r'.toValue :=
  (parallel_agreesOff h).nodes (b := false) ⟨rfl, rfl⟩ t.nodes hs

/-- A template that spares a field gives the same text, or the same failure, whatever the field
holds. -/
theorem render_eq_of_agreesOff {name source : String} {t : Template}
    (ht : compile name source = .ok t) (hs : t.Spares F) (h : r.AgreesOff F r') :
    render name source r.toValue = render name source r'.toValue := by
  have hrun := run_eq_of_agreesOff t hs h
  simp only [render, renderInto, ht, execute, hrun]

theorem render_spared_tags : ∃ t,
    compile "key"
      "\x7b\x7bwith .Name\x7d\x7d\x7b\x7b.\x7d\x7d\x7b\x7b$.ID\x7d\x7d\x7b\x7bend\x7d\x7d" = .ok t ∧
    t.Spares .tags ∧
    (Record.mk "i" "n" "" [] [("a", "")]).AgreesOff .tags ⟨"i", "n", "", [], []⟩ ∧
    render "key"
        "\x7b\x7bwith .Name\x7d\x7d\x7b\x7b.\x7d\x7d\x7b\x7b$.ID\x7d\x7d\x7b\x7bend\x7d\x7d"
        (Record.mk "i" "n" "" [] [("a", "")]).toValue =
      render "key"
        "\x7b\x7bwith .Name\x7d\x7d\x7b\x7b.\x7d\x7d\x7b\x7b$.ID\x7d\x7d\x7b\x7bend\x7d\x7d"
        (Record.mk "i" "n" "" [] []).toValue := by
  have ht : compile "key"
      "\x7b\x7bwith .Name\x7d\x7d\x7b\x7b.\x7d\x7d\x7b\x7b$.ID\x7d\x7d\x7b\x7bend\x7d\x7d" = .ok
    ⟨"key",
      "\x7b\x7bwith .Name\x7d\x7d\x7b\x7b.\x7d\x7d\x7b\x7b$.ID\x7d\x7d\x7b\x7bend\x7d\x7d",
      [.block .with ⟨0, "\x7b\x7bwith .Name\x7d\x7d".toList⟩
        (.mk (.mk (.field false ["Name"]) []) [])
        [.action ⟨14, "\x7b\x7b.\x7d\x7d".toList⟩ (.mk (.mk .dot []) []),
          .action ⟨19, "\x7b\x7b$.ID\x7d\x7d".toList⟩ (.mk (.mk (.field true ["ID"]) []) [])]
        []]⟩ := by
    with_unfolding_all rfl
  have hname : (Operand.field false ["Name"]).Spares .tags false := ⟨by decide, nofun⟩
  have hid : (Operand.field true ["ID"]).Spares .tags true := ⟨by decide, nofun⟩
  have hr : (Record.mk "i" "n" "" [] [("a", "")]).AgreesOff .tags ⟨"i", "n", "", [], []⟩ := by
    intro G hG
    cases G with
    | tags => exact absurd rfl hG
    | id | name | task | fields => rfl
  refine ⟨_, ht, ?hs, hr, render_eq_of_agreesOff ht ?hs hr⟩
  exact ⟨⟨⟨⟨hname, trivial⟩, trivial⟩,
    ⟨⟨⟨rfl, trivial⟩, trivial⟩, ⟨⟨hid, trivial⟩, trivial⟩, trivial⟩, trivial⟩, trivial⟩

end Template

end AlertRelay
