import AlertRelay.Proofs.Template.Fields
import AlertRelay.Proofs.Template.Parallel
import AlertRelay.Proofs.Value.Reordering
import AlertRelay.Template.Basic

/-!
Rendering does not depend on the order in which the maps of the data were filled.
-/

namespace AlertRelay.Template

open AlertRelay.Number AlertRelay.Value

variable {v w : Value} {vs ws : List Value}

theorem mapM_congr {ε β : Type} {R : Value → Value → Prop} {f : Value → Except ε β}
    (hf : ∀ v w, R v w → f v = f w) (h : List.Forall₂ R vs ws) : vs.mapM f = ws.mapM f := by
  induction h with
  | nil => rfl
  | cons hv _ ih => rw [List.mapM_cons, List.mapM_cons, hf _ _ hv, ih]

/-!
Comparing.
-/

theorem kind_of_not_isHashable (h : v.isHashable = false) :
    v.kind = .error (.noKind v.typeName) := by
  cases v with
  | list _ | map _ | labels _ | record _ _ _ _ _ => rfl
  | _ => cases h

theorem kind_eq (h : Reordered v w) : v.kind = w.kind := by
  rcases h.eq_or_not_isHashable with rfl | ⟨hv, hw⟩
  · rfl
  · rw [kind_of_not_isHashable hv, kind_of_not_isHashable hw, h.typeName_eq]

theorem eq_of_kind_eq_ok {k : Kind} (h : Reordered v w) (hk : v.kind = .ok k) : v = w := by
  rcases h.eq_or_not_isHashable with rfl | ⟨hv, -⟩
  · rfl
  · rw [kind_of_not_isHashable hv] at hk
    cases hk

theorem eqAny_eq (k : Kind) (first : Value) (h : List.Forall₂ Reordered vs ws) :
    eqAny k first vs = eqAny k first ws := by
  induction h with
  | nil => rfl
  | @cons v w vs ws hv _ ih =>
    rw [eqAny, eqAny, ih, ← kind_eq hv]
    cases hk : v.kind with
    | error e => rfl
    | ok l => rw [eq_of_kind_eq_ok hv hk]

theorem eq_eq (hv : Reordered v w) (h : List.Forall₂ Reordered vs ws) :
    Value.eq v vs = Value.eq w ws := by
  rw [Value.eq, Value.eq, isEmpty_eq_of_length_eq h.length_eq, ← kind_eq hv]
  cases hk : v.kind with
  | error e => rfl
  | ok k =>
    obtain rfl := eq_of_kind_eq_ok hv hk
    simp only [eqAny_eq _ v h]

theorem lt_eq {v' w' : Value} (hv : Reordered v w) (hv' : Reordered v' w') :
    Value.lt v v' = Value.lt w w' := by
  rw [Value.lt, Value.lt, ← kind_eq hv, ← kind_eq hv']
  cases hk : v.kind with
  | error e => rfl
  | ok k =>
    cases hk' : v'.kind with
    | error e => rfl
    | ok k' => rw [eq_of_kind_eq_ok hv hk, eq_of_kind_eq_ok hv' hk']

theorem le_eq {v' w' : Value} (hv : Reordered v w) (hv' : Reordered v' w') :
    Value.le v v' = Value.le w w' := by
  rw [Value.le, Value.le, lt_eq hv hv', eq_eq hv (.cons hv' .nil)]

/-!
Looking up.
-/

theorem reordered_getD {x y : Option Value} (h : Option.Rel Reordered x y) :
    Reordered (x.getD .missing) (y.getD .missing) := by
  cases h with
  | some hv => exact hv
  | none => exact .atom rfl

theorem rel_find?_map {k : String} {es fs : List (String × Value)}
    (h : Reordered (.map es) (.map fs)) : Option.Rel Reordered (find? k es) (find? k fs) := by
  cases h with
  | atom h => cases h
  | map hn hp hes =>
    rw [find?_eq_of_perm hn hp]
    exact rel_find? hes.forall₂

theorem rel_getElem? (h : List.Forall₂ Reordered vs ws) (n : Nat) :
    Option.Rel Reordered vs[n]? ws[n]? := by
  induction h generalizing n with
  | nil => exact .none
  | cons hv _ ih =>
    cases n with
    | zero => exact .some hv
    | succ n => exact ih n

theorem elementAt_agrees (h : List.Forall₂ Reordered vs ws) (n : Int) :
    Agrees Eq Reordered (elementAt vs n) (elementAt ws n) := by
  have houtside : Agrees Eq Reordered (elementAt.outside n) (elementAt.outside n) := by
    unfold elementAt.outside
    split <;> exact .error rfl
  unfold elementAt
  split
  · exact houtside
  · have hn := rel_getElem? h n.toNat
    generalize vs[n.toNat]? = x, ws[n.toNat]? = y at hn
    cases hn with
    | some hv => exact .ok hv
    | none => exact houtside

/-- A result that is the same in both runs and holds no other values. -/
theorem agrees_self {ε : Type} {x : Except ε Value} (h : ∀ v, x = .ok v → v.isHashable = true) :
    Agrees Eq Reordered x x := by
  cases x with
  | ok v => exact .ok (.atom (h v rfl))
  | error e => exact .error rfl

theorem isHashable_of_lookUp {key u : Value} (hv : v.isHashable = true)
    (h : lookUp v key = .ok u) : u.isHashable = true := by
  cases v with
  | text s =>
    unfold lookUp at h
    dsimp only at h
    split at h
    · cases hc : elementAt s.toList _ with
      | error e =>
        rw [hc] at h
        cases h
      | ok c =>
        rw [hc] at h
        cases h
        rfl
    · cases h
  | list _ | map _ | labels _ | record _ _ _ _ _ => cases hv
  | _ => cases h

/-- A key that can grow is refused, and the refusal tells no more than types. -/
theorem lookUp_of_not_isHashable {key key' : Value} (h : Reordered v w) (hk : Reordered key key')
    (hkey : key.isHashable = false) : Agrees Eq Reordered (lookUp v key) (lookUp w key') := by
  cases hk with
  | atom ha =>
    rw [ha] at hkey
    cases hkey
  | list _ | map _ _ _ | labels _ _ | record _ _ _ _ _ =>
    cases h with
    | @atom v _ => cases v <;> exact .error rfl
    | list _ | map _ _ _ | labels _ _ | record _ _ _ _ _ => exact .error rfl

theorem lookUp_agrees {key key' : Value} (h : Reordered v w) (hk : Reordered key key') :
    Agrees Eq Reordered (lookUp v key) (lookUp w key') := by
  -- Keys that differ between the runs can grow, and no item takes those.
  rcases hk.eq_or_not_isHashable with rfl | ⟨hkey, -⟩
  · cases h with
    | atom hv => exact agrees_self fun u hu => isHashable_of_lookUp hv hu
    | list hvs =>
      cases key with
      | int n => exact elementAt_agrees hvs.forall₂ n
      | _ => exact .error rfl
    | map hn hp hes =>
      unfold lookUp
      dsimp only
      split
      · exact .error rfl
      · split
        · exact .ok (reordered_getD (rel_find?_map (.map hn hp hes)))
        · exact .ok (.atom rfl)
    | labels hn hp =>
      have hfind (k : String) := find?_eq_of_perm hn hp (k := k)
      unfold lookUp
      simp only [hfind]
      exact agrees_self fun u hu => by
        split at hu
        · cases hu
        · split at hu <;> cases hu <;> rfl
    | record _ _ _ _ _ => exact .error rfl
  · exact lookUp_of_not_isHashable h hk hkey

theorem lookUpAll_agrees (h : Reordered v w) (hvs : List.Forall₂ Reordered vs ws) :
    Agrees Eq Reordered (lookUpAll v vs) (lookUpAll w ws) := by
  induction hvs generalizing v w with
  | nil => exact .ok h
  | cons hkey _ ih => exact (lookUp_agrees h hkey).bind fun _ _ hu => ih hu

theorem lengthOf_eq (h : Reordered v w) : lengthOf v = lengthOf w := by
  cases h with
  | atom _ | record _ _ _ _ _ => rfl
  | list hvs => exact congrArg counted hvs.forall₂.length_eq
  | map _ hp hes => exact congrArg counted (length_entries hp hes)
  | labels _ hp => exact congrArg counted hp.length_eq

/-!
Printing and formats.
-/

theorem isText_eq (h : Reordered v w) : isText v = isText w := by
  cases h <;> rfl

theorem joinSparsely_eq {before before' : Option Value} (hb : Option.Rel Reordered before before')
    (h : List.Forall₂ Reordered vs ws) : joinSparsely before vs = joinSparsely before' ws := by
  induction h generalizing before before' with
  | nil => rfl
  | cons hv _ ih =>
    have hrest := ih (.some hv)
    unfold joinSparsely
    cases hb with
    | some hu => simp only [hrest, hv.print_eq, isText_eq hv, isText_eq hu]
    | none => simp only [hrest, hv.print_eq]

theorem joinLine_eq (h : List.Forall₂ Reordered vs ws) : joinLine vs = joinLine ws := by
  rw [joinLine, joinLine, mapM_congr (fun _ _ hv => hv.print_eq) h]

theorem printed_eq (h : Reordered v w) : Directive.printed v = Directive.printed w := by
  rw [Directive.printed, Directive.printed, h.print_eq]

theorem extraText_eq (h : List.Forall₂ Reordered vs ws) : extraText vs = extraText ws := by
  rw [extraText, extraText, isEmpty_eq_of_length_eq h.length_eq,
    mapM_congr (fun _ _ hv => by rw [hv.typeName_eq, printed_eq hv]) h]

theorem misfit_eq (d : Directive) (h : Reordered v w) : d.misfit v = d.misfit w := by
  rw [Directive.misfit, Directive.misfit, h.print_eq, h.typeName_eq]

theorem lay_of_not_isHashable (d : Directive) (h : v.isHashable = false) :
    d.lay v =
      if d.verb == 'v' then do d.layText (← Directive.printed v)
      else if d.verb == 'q' then do d.layQuoted (← Directive.printed v)
      else d.misfit v := by
  cases v with
  | list _ | map _ | labels _ | record _ _ _ _ _ =>
    unfold Directive.lay
    dsimp only
    rw [ite_self, ite_self, ite_self]
  | _ => cases h

theorem lay_eq (d : Directive) (h : Reordered v w) : d.lay v = d.lay w := by
  -- The verbs that look into a value take texts and numbers, the same in both runs.
  rcases h.eq_or_not_isHashable with rfl | ⟨hv, hw⟩
  · rfl
  · rw [lay_of_not_isHashable d hv, lay_of_not_isHashable d hw, printed_eq h, misfit_eq d h]

theorem fill_eq (cs : List Chunk) (h : List.Forall₂ Reordered vs ws) : fill cs vs = fill cs ws := by
  induction cs generalizing vs ws with
  | nil => exact extraText_eq h
  | cons c cs ih =>
    cases c with
    | literal c => rw [fill, fill, ih h]
    | directive d =>
      unfold fill
      rw [ih h]
      cases h with
      | nil => rfl
      | cons hv hvs =>
        dsimp only
        rw [lay_eq d hv, ih hvs]

theorem format_eq (h : Reordered v w) (hvs : List.Forall₂ Reordered vs ws) :
    format v vs = format w ws := by
  cases h with
  | @atom v _ =>
    cases v with
    | text s => rw [format, format, fill_eq _ hvs]
    | _ => rfl
  | list _ | map _ _ _ | labels _ _ | record _ _ _ _ _ => rfl

theorem isHashable_of_format {u : Value} (h : format v vs = .ok u) : u.isHashable = true := by
  cases v with
  | text s =>
    unfold format at h
    dsimp only at h
    split at h
    · cases h
      rfl
    · cases h
  | _ => cases h

/-!
Functions.
-/

theorem reordered_conjunction (hv : Reordered v w) (h : List.Forall₂ Reordered vs ws) :
    Reordered (conjunction v vs) (conjunction w ws) := by
  induction h generalizing v w with
  | nil => exact hv
  | cons hu _ ih =>
    rw [conjunction, conjunction, hv.truth_eq]
    split
    · exact ih hu
    · exact hv

theorem reordered_disjunction (hv : Reordered v w) (h : List.Forall₂ Reordered vs ws) :
    Reordered (disjunction v vs) (disjunction w ws) := by
  induction h generalizing v w with
  | nil => exact hv
  | cons hu _ ih =>
    rw [disjunction, disjunction, hv.truth_eq]
    split
    · exact hv
    · exact ih hu

theorem agrees_bool (b : Except CompareError Bool) : Agrees Eq Reordered (bool b) (bool b) := by
  cases b with
  | error e => exact .error rfl
  | ok b => exact .ok (.atom rfl)

theorem agrees_ofPrint (s : Except LimitError String) :
    Agrees Eq Reordered (ofPrint (s.map .text)) (ofPrint (s.map .text)) := by
  cases s with
  | error e => exact .error rfl
  | ok s => exact .ok (.atom rfl)

theorem unary_agrees (f : Builtin) {g : Value → Except CallError Value}
    (hg : ∀ v w, Reordered v w → Agrees Eq Reordered (g v) (g w))
    (h : List.Forall₂ Reordered vs ws) : Agrees Eq Reordered (unary f g vs) (unary f g ws) := by
  have hlength := h.length_eq
  cases h with
  | nil => exact .error rfl
  | cons hv hvs =>
    cases hvs with
    | nil => exact hg _ _ hv
    | cons _ _ => exact .error (congrArg (CallError.tooMany f 1) hlength)

theorem binary_agrees (f : Builtin) {compare : Value → Value → Except CompareError Bool}
    (hc : ∀ v w v' w', Reordered v w → Reordered v' w' → compare v v' = compare w w')
    (h : List.Forall₂ Reordered vs ws) :
    Agrees Eq Reordered (binary f compare vs) (binary f compare ws) := by
  have hlength := h.length_eq
  cases h with
  | nil => exact .error rfl
  | cons hv hvs =>
    cases hvs with
    | nil => exact .error rfl
    | cons hv' hvs =>
      cases hvs with
      | nil =>
        rw [binary, binary, hc _ _ _ _ hv hv']
        exact agrees_bool _
      | cons _ _ => exact .error (congrArg (CallError.tooMany f 2) hlength)

theorem apply_agrees (f : Builtin) (h : List.Forall₂ Reordered vs ws) :
    Agrees Eq Reordered (f.apply vs) (f.apply ws) := by
  cases f with
  | and =>
    cases h with
    | nil => exact .error rfl
    | cons hv hvs => exact .ok (reordered_conjunction hv hvs)
  | or =>
    cases h with
    | nil => exact .error rfl
    | cons hv hvs => exact .ok (reordered_disjunction hv hvs)
  | not =>
    refine unary_agrees .not (fun v w hv => ?_) h
    rw [hv.truth_eq]
    exact .ok (.atom rfl)
  | eq =>
    cases h with
    | nil => exact .error rfl
    | cons hv hvs =>
      rw [Builtin.apply, Builtin.apply, eq_eq hv hvs]
      exact agrees_bool _
  | ne =>
    refine binary_agrees .ne (fun v w v' w' hv hv' => ?_) h
    rw [eq_eq hv (.cons hv' .nil)]
  | lt => exact binary_agrees .lt (fun _ _ _ _ => lt_eq) h
  | le => exact binary_agrees .le (fun _ _ _ _ => le_eq) h
  | gt =>
    refine binary_agrees .gt (fun v w v' w' hv hv' => ?_) h
    rw [Value.gt, Value.gt, le_eq hv hv']
  | ge =>
    refine binary_agrees .ge (fun v w v' w' hv hv' => ?_) h
    rw [Value.ge, Value.ge, lt_eq hv hv']
  | index =>
    cases h with
    | nil => exact .error rfl
    | cons hv hvs => exact lookUpAll_agrees hv hvs
  | len =>
    refine unary_agrees .len (fun v w hv => ?_) h
    rw [lengthOf_eq hv]
    cases lengthOf w with
    | error e => exact .error rfl
    | ok n => exact .ok (.atom rfl)
  | print =>
    rw [Builtin.apply, Builtin.apply, joinSparsely_eq .none h]
    exact agrees_ofPrint _
  | printf =>
    cases h with
    | nil => exact .error rfl
    | cons hv hvs =>
      rw [Builtin.apply, Builtin.apply, format_eq hv hvs]
      exact agrees_self fun _ => isHashable_of_format
  | println =>
    rw [Builtin.apply, Builtin.apply, joinLine_eq h]
    exact agrees_ofPrint _

theorem call_agrees (f : Builtin) (h : List.Forall₂ Reordered vs ws) :
    Agrees Eq Reordered (call f vs) (call f ws) := by
  have hf := apply_agrees f h
  unfold call
  generalize f.apply vs = x, f.apply ws = y at hf
  cases hf with
  | ok hv => exact .ok hv
  | error he => exact .error (congrArg (Cause.call f) he)

/-!
Fields and elements.
-/

theorem isHashable_of_fieldOf {name : String} {u : Value} (hv : v.isHashable = true)
    (h : fieldOf v name = .ok u) : u.isHashable = true := by
  cases v with
  | list _ | map _ | labels _ | record _ _ _ _ _ => cases hv
  | _ => cases h

theorem fieldOf_agrees (name : String) (h : Reordered v w) :
    Agrees Eq Reordered (fieldOf v name) (fieldOf w name) := by
  cases h with
  | atom hv => exact agrees_self fun _ => isHashable_of_fieldOf hv
  | list _ => exact .error rfl
  | map hn hp hes => exact .ok (reordered_getD (rel_find?_map (.map hn hp hes)))
  | @labels es fs hn hp =>
    rw [fieldOf, fieldOf, find?_eq_of_perm hn hp]
    refine .ok (.atom ?_)
    cases find? name fs <;> rfl
  | @record id n task es es' fs tags tags' hn hp hes hnt hpt =>
    change Agrees Eq Reordered (fieldOf (Record.toValue ⟨id, n, task, es, tags⟩) name)
      (fieldOf (Record.toValue ⟨id, n, task, fs, tags'⟩) name)
    obtain ⟨G, -, hG⟩ | hnone := fieldOf_record name
    · rw [hG, hG]
      cases G with
      | id | name | task => exact .ok (.atom rfl)
      | fields => exact .ok (.map hn hp hes)
      | tags => exact .ok (.labels hnt hpt)
    · rw [hnone, hnone]
      exact .error rfl

theorem chainOf_agrees (names : List String) (h : Reordered v w) :
    Agrees Eq Reordered (chainOf v names) (chainOf w names) := by
  induction names generalizing v w with
  | nil => exact .ok h
  | cons name names ih => exact (fieldOf_agrees name h).bind fun _ _ hu => ih hu

theorem forall₂_elements {es fs : List (String × Value)} (h : Reordered (.map es) (.map fs)) :
    List.Forall₂ Reordered ((sortEntries es).map Prod.snd) ((sortEntries fs).map Prod.snd) := by
  cases h with
  | atom h => cases h
  | map hn hp hes =>
    rw [sortEntries_eq_of_perm hn hp, List.forall₂_map_left_iff, List.forall₂_map_right_iff]
    exact (forall₂_sortEntries hes.forall₂).imp fun _ _ h => h.2

theorem elements_of_isHashable (site : Site) (hv : v.isHashable = true)
    (h : elements site v = .ok vs) : vs = [] := by
  cases v with
  | list _ | map _ | labels _ | record _ _ _ _ _ => cases hv
  | nil | missing =>
    cases h
    rfl
  | _ =>
    unfold elements at h
    dsimp only at h
    split at h <;> cases h

theorem elements_agrees (site : Site) (h : Reordered v w) :
    Agrees (fun e f => Run.fail e = Run.fail f) (List.Forall₂ Reordered)
      (elements site v) (elements site w) := by
  have hprint := h.print_eq
  cases h with
  | atom hv =>
    cases he : elements site v with
    | error f => exact .error rfl
    | ok vs =>
      obtain rfl := elements_of_isHashable site hv he
      exact .ok .nil
  | list hvs => exact .ok hvs.forall₂
  | map hn hp hes => exact .ok (forall₂_elements (.map hn hp hes))
  | labels hn hp =>
    rw [elements, elements, sortEntries_eq_of_perm hn hp]
    exact .ok ((List.forall₂_map_right_iff.mpr (List.forall₂_map_left_iff.mpr
      (List.forall₂_same.mpr fun _ _ => .atom rfl))))
  | record _ _ _ _ _ =>
    unfold elements
    dsimp only
    rw [hprint]
    split <;> exact .error rfl

/-!
Runs.
-/

theorem parallel_reordered (h : Reordered v w) :
    Parallel v w (fun _ _ => True) (fun _ => Reordered) Reordered Eq where
  enter hv := hv
  dot _ hd := hd
  constant {_ c} _ := by cases c <;> exact .atom rfl
  field {_ fromRoot names _ _} _ hd := by
    cases fromRoot with
    | true => exact chainOf_agrees names h
    | false => exact chainOf_agrees names hd
  call f hvs := call_agrees f hvs
  truth hv := hv.truth_eq
  steps site hv := elements_agrees site hv
  writeValue hv := by rw [writeValue, writeValue, hv.print_eq]
  write _ := rfl
  fail _ _ := rfl
  append h h' := by rw [h, h']

theorem run_eq_of_reordered (t : Template) (h : Reordered v w) : t.run v = t.run w :=
  (parallel_reordered h).nodes (b := false) h t.nodes
    (allNodes_of_forall (fun _ _ => trivial) false t.nodes)

theorem execute_eq_of_reordered (t : Template) (buffer : String) (h : Reordered v w) :
    t.execute v buffer = t.execute w buffer := by
  rw [execute, execute, run_eq_of_reordered t h]

/-- Two values that differ only in the order in which their maps were filled give the same text, or
the same failure. -/
theorem render_eq_of_reordered (h : Reordered v w) (name source : String) :
    render name source v = render name source w := by
  have hexecute (t : Template) := execute_eq_of_reordered t "" h
  simp only [render, renderInto, hexecute]

theorem render_swapped_entries : ∃ v w : Value, Reordered v w ∧ v ≠ w ∧
    render "body"
        "\x7b\x7b range .Fields \x7d\x7d\x7b\x7b . \x7d\x7d\x7b\x7b end \x7d\x7d" v =
      render "body"
        "\x7b\x7b range .Fields \x7d\x7d\x7b\x7b . \x7d\x7d\x7b\x7b end \x7d\x7d" w := by
  have hinner : Reordered (.map [("y", .nil), ("x", .text "")])
      (.map [("x", .text ""), ("y", .nil)]) :=
    .map (by decide) (.swap ..) (.cons (.atom rfl) (.cons (.atom rfl) .nil))
  have h : Reordered
      (.record "" "" "" [("b", .int 1), ("a", .list [.map [("y", .nil), ("x", .text "")]])]
        [("h", "1"), ("g", "2")])
      (.record "" "" "" [("a", .list [.map [("x", .text ""), ("y", .nil)]]), ("b", .int 1)]
        [("g", "2"), ("h", "1")]) :=
    .record (by decide) (.swap ..) (.cons (.list (.cons hinner .nil)) (.cons (.atom rfl) .nil))
      (by decide) (.swap ..)
  refine ⟨_, _, h, fun he => ?_, render_eq_of_reordered h ..⟩
  injection he with _ _ _ hfields
  injection hfields with hfirst
  injection hfirst with hkey
  exact absurd hkey (by decide)

end AlertRelay.Template
