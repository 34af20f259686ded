import AlertRelay.Proofs.Template.Constants
import AlertRelay.Proofs.Template.Faults
import AlertRelay.Proofs.Template.Fields

/-!
Executing is contained: it ends, or fails at an action of its template, unless the data holds an
integer of too many digits.
-/

namespace AlertRelay.Template

open AlertRelay.Number AlertRelay.Value

variable {v : Value} {vs : List Value}

/-!
Functions give no integer of more digits than they are given.
-/

theorem conjunction_mem (v : Value) (vs : List Value) : conjunction v vs ∈ v :: vs := by
  induction vs generalizing v with
  | nil => exact List.mem_singleton_self v
  | cons w ws ih =>
    unfold conjunction
    split
    · exact List.mem_cons_of_mem _ (ih w)
    · exact List.mem_cons_self ..

theorem disjunction_mem (v : Value) (vs : List Value) : disjunction v vs ∈ v :: vs := by
  induction vs generalizing v with
  | nil => exact List.mem_singleton_self v
  | cons w ws ih =>
    unfold disjunction
    split
    · exact List.mem_cons_self ..
    · exact List.mem_cons_of_mem _ (ih w)

theorem mem_of_elementAt {α : Type} {xs : List α} {n : Int} {x : α}
    (h : elementAt xs n = .ok x) : x ∈ xs := by
  have houtside : (elementAt.outside n : Except CallError α) ≠ .ok x := by
    unfold elementAt.outside
    split <;> exact nofun
  unfold elementAt at h
  split at h
  · exact absurd h houtside
  · split at h
    · next hx =>
      cases h
      exact List.mem_of_getElem? hx
    · exact absurd h houtside

/-- Results whose integers can be written. -/
def GivesShort {ε : Type} (x : Except ε Value) : Prop := ∀ v, x = .ok v → v.Short

theorem givesShort_ok {ε : Type} (h : v.Short) : GivesShort (.ok v : Except ε Value) := by
  rintro _ ⟨⟩
  exact h

theorem givesShort_error {ε : Type} (e : ε) : GivesShort (.error e) := nofun

theorem GivesShort.bind {ε : Type} {x : Except ε Value} {f : Value → Except ε Value}
    (hx : GivesShort x) (hf : ∀ v, v.Short → GivesShort (f v)) : GivesShort (x >>= f) := by
  cases x with
  | error e => exact givesShort_error e
  | ok v => exact hf v (hx v rfl)

theorem givesShort_map {ε α : Type} (x : Except ε α) {f : α → Value}
    (hf : ∀ a, x = .ok a → (f a).Short) : GivesShort (x.map f) := by
  cases x with
  | error e => exact givesShort_error e
  | ok a => exact givesShort_ok (hf a rfl)

theorem lookUp_short {key : Value} (h : v.Short) : GivesShort (lookUp v key) := by
  cases v with
  | map es =>
    unfold lookUp
    dsimp only
    split
    · exact givesShort_error _
    · split
      · exact givesShort_ok (short_find? h)
      · exact givesShort_ok (short_of_integers_eq_nil rfl)
  | labels es =>
    unfold lookUp
    dsimp only
    split
    · exact givesShort_error _
    · split <;> exact givesShort_ok (short_of_integers_eq_nil rfl)
  | list items =>
    unfold lookUp
    dsimp only
    split
    · exact fun u hu => short_list.mp h u (mem_of_elementAt hu)
    · exact givesShort_error _
  | text s =>
    unfold lookUp
    dsimp only
    split
    · exact givesShort_map _ fun c _ => short_of_integers_eq_nil rfl
    · exact givesShort_error _
  | _ => exact givesShort_error _

theorem lookUpAll_short (h : v.Short) (keys : List Value) : GivesShort (lookUpAll v keys) := by
  induction keys generalizing v with
  | nil => exact givesShort_ok h
  | cons key keys ih => exact (lookUp_short h).bind fun u hu => ih hu

/-- A machine word is far below the digit limit. -/
theorem countLimit_lt_limitBound : Directive.countLimit < limitBound := by
  have hword : Directive.countLimit < powTen 19 := by decide
  exact Nat.lt_of_lt_of_le hword (powTen_le_powTen (by decide))

theorem le_of_counted {n k : Nat} (h : counted n = .ok k) : k ≤ Directive.countLimit := by
  unfold counted at h
  split at h
  · cases h
  · next hle =>
    cases h
    exact Nat.le_of_not_lt hle

theorem le_of_lengthOf {n : Nat} (h : lengthOf v = .ok n) : n ≤ Directive.countLimit := by
  cases v with
  | text | list | map | labels => exact le_of_counted h
  | _ => cases h

theorem short_of_lengthOf {n : Nat} (h : lengthOf v = .ok n) : (Value.int n).Short := by
  intro k hk
  obtain rfl := List.mem_singleton.mp hk
  exact Nat.lt_of_le_of_lt (le_of_lengthOf h) countLimit_lt_limitBound

theorem bool_short (b : Except CompareError Bool) : GivesShort (bool b) := by
  cases b with
  | error e => exact givesShort_error _
  | ok b => exact givesShort_ok (short_of_integers_eq_nil rfl)

theorem ofPrint_short (s : Except LimitError String) : GivesShort (ofPrint (s.map .text)) := by
  cases s with
  | error e => exact givesShort_error _
  | ok s => exact givesShort_ok (short_of_integers_eq_nil rfl)

theorem unary_short (f : Builtin) {g : Value → Except CallError Value}
    (hg : ∀ v, GivesShort (g v)) (vs : List Value) : GivesShort (unary f g vs) := by
  unfold unary
  split
  · exact givesShort_error _
  · exact hg _
  · exact givesShort_error _

theorem binary_short (f : Builtin) (compare : Value → Value → Except CompareError Bool)
    (vs : List Value) : GivesShort (binary f compare vs) := by
  unfold binary
  split
  · exact givesShort_error _
  · exact givesShort_error _
  · exact bool_short _
  · exact givesShort_error _

theorem format_short (v : Value) (vs : List Value) : GivesShort (format v vs) := by
  unfold format
  split
  · split
    · exact givesShort_ok (short_of_integers_eq_nil rfl)
    · exact givesShort_error _
  · exact givesShort_error _

theorem apply_short (f : Builtin) (h : ∀ v ∈ vs, v.Short) : GivesShort (f.apply vs) := by
  unfold Builtin.apply
  cases f with
  | and =>
    cases vs with
    | nil => exact givesShort_error _
    | cons v vs => exact givesShort_ok (h _ (conjunction_mem v vs))
  | or =>
    cases vs with
    | nil => exact givesShort_error _
    | cons v vs => exact givesShort_ok (h _ (disjunction_mem v vs))
  | not => exact unary_short _ (fun v => givesShort_ok (short_of_integers_eq_nil rfl)) vs
  | eq =>
    cases vs with
    | nil => exact givesShort_error _
    | cons v vs => exact bool_short _
  | ne | lt | le | gt | ge => exact binary_short _ _ vs
  | index =>
    cases vs with
    | nil => exact givesShort_error _
    | cons v keys => exact lookUpAll_short (h v (List.mem_cons_self ..)) keys
  | len =>
    refine unary_short _ (fun v => ?_) vs
    cases hn : lengthOf v with
    | error e => exact givesShort_error _
    | ok n => exact givesShort_ok (short_of_lengthOf hn)
  | print | println => exact ofPrint_short _
  | printf =>
    cases vs with
    | nil => exact givesShort_error _
    | cons v vs => exact format_short v vs

theorem call_short (f : Builtin) (h : ∀ v ∈ vs, v.Short) : GivesShort (call f vs) := by
  have hf := apply_short f h
  unfold call
  split
  · next u hu => exact givesShort_ok (hf u hu)
  · exact givesShort_error _

theorem fieldOf_short (name : String) (h : v.Short) : GivesShort (fieldOf v name) := by
  cases v with
  | record id n task es tags =>
    change GivesShort (fieldOf (Record.toValue ⟨id, n, task, es, tags⟩) name)
    obtain ⟨G, -, hG⟩ | hnone := fieldOf_record name
    · rw [hG]
      cases G with
      | fields => exact givesShort_ok (short_record.mp h)
      | id | name | task | tags => exact givesShort_ok (short_of_integers_eq_nil rfl)
    · rw [hnone]
      exact givesShort_error _
  | map es => exact givesShort_ok (short_find? h)
  | labels es =>
    refine givesShort_ok (short_of_integers_eq_nil ?_)
    cases find? name es <;> rfl
  | _ => exact givesShort_error _

theorem chainOf_short (names : List String) (h : v.Short) : GivesShort (chainOf v names) := by
  induction names generalizing v with
  | nil => exact givesShort_ok h
  | cons name names ih => exact (fieldOf_short name h).bind fun u hu => ih hu

theorem elements_short {site : Site} (h : v.Short) (he : elements site v = .ok vs) :
    ∀ u ∈ vs, u.Short := by
  cases v with
  | nil | missing =>
    cases he
    exact List.forall_mem_nil _
  | list items =>
    cases he
    exact short_list.mp h
  | map es =>
    cases he
    intro u hu
    obtain ⟨e, hmem, rfl⟩ := List.mem_map.mp hu
    exact short_map.mp h e ((sortEntries_perm es).mem_iff.mp hmem)
  | labels es =>
    cases he
    intro u hu
    obtain ⟨e, -, rfl⟩ := List.mem_map.mp hu
    exact short_of_integers_eq_nil rfl
  | _ =>
    unfold elements at he
    dsimp only at he
    split at he <;> cases he

theorem elements_ne_limit {site : Site} (h : v.Short) (e : LimitError) :
    elements site v ≠ .error (.limit e) := by
  obtain ⟨s, hs⟩ := exists_print h
  unfold elements
  split
  · exact nofun
  · exact nofun
  · exact nofun
  · exact nofun
  · exact nofun
  · rw [hs]
    exact nofun

/-!
Runs.
-/

/-- One value in two runs, with integers that can be written. -/
def SameShort (v w : Value) : Prop := v = w ∧ v.Short

theorem GivesShort.agrees {ε : Type} {x : Except ε Value} (h : GivesShort x) :
    Agrees Eq SameShort x x := by
  cases x with
  | ok v => exact .ok ⟨rfl, h v rfl⟩
  | error e => exact .error rfl

theorem forall₂_sameShort {ws : List Value} :
    List.Forall₂ SameShort vs ws ↔ vs = ws ∧ ∀ v ∈ vs, v.Short := by
  constructor
  · intro h
    induction h with
    | nil => exact ⟨rfl, List.forall_mem_nil _⟩
    | cons hv _ ih =>
      obtain ⟨rfl, hshort⟩ := hv
      obtain ⟨rfl, hrest⟩ := ih
      exact ⟨rfl, List.forall_mem_cons.mpr ⟨hshort, hrest⟩⟩
  · rintro ⟨rfl, h⟩
    exact List.forall₂_same.mpr fun v hv => ⟨rfl, h v hv⟩

/-- A run that no integer of too many digits ends. -/
def Run.Unlimited (r : Run) : Prop := ∀ e, r.fault ≠ some (.limit e)

theorem Run.Unlimited.append {a b : Run} (ha : a.Unlimited) (hb : b.Unlimited) :
    (a.append b).Unlimited := by
  unfold Run.append
  split
  · exact ha
  · exact hb

theorem unlimited_writeValue (h : v.Short) : (writeValue v).Unlimited := by
  obtain ⟨s, hs⟩ := exists_print h
  unfold writeValue
  rw [hs]
  exact nofun

/-- A run beside itself: what is kept up is that all its values are short. -/
theorem parallel_short {root : Value} (hroot : root.Short) :
    Parallel root root (fun _ => Operand.IsShort) (fun _ => SameShort) SameShort
      (fun r _ => r.Unlimited) where
  enter hv := hv
  dot _ hd := hd
  constant hc := ⟨rfl, hc⟩
  field {_ fromRoot names d _} _ hd := by
    obtain ⟨rfl, hd⟩ := hd
    have hfrom : (if fromRoot then root else d).Short := by
      cases fromRoot with
      | true => exact hroot
      | false => exact hd
    exact (chainOf_short names hfrom).agrees
  call f hvs := by
    obtain ⟨rfl, hshort⟩ := forall₂_sameShort.mp hvs
    exact (call_short f hshort).agrees
  truth hv := congrArg truth hv.1
  steps {v _} site hv := by
    obtain ⟨rfl, hv⟩ := hv
    cases he : elements site v with
    | ok vs => exact .ok (forall₂_sameShort.mpr ⟨rfl, elements_short hv he⟩)
    | error f =>
      -- What cannot be iterated over is printed in the message, so the limit could be met there.
      refine .error fun e hf => ?_
      cases hf
      exact elements_ne_limit hv e he
  writeValue hv := unlimited_writeValue hv.2
  write _ := nofun
  fail _ _ := nofun
  append ha hb := ha.append hb

theorem unlimited_run {name source : String} {t : Template} (h : compile name source = .ok t)
    {data : Value} (hd : data.Short) : (t.run data).Unlimited :=
  (parallel_short hd).nodes (b := false) ⟨rfl, hd⟩ t.nodes
    (allNodes_of_compile h (fun _ _ _ _ hr => hr.isShort) false)

/-- The digit limit is met by some template exactly if the data holds a long integer. -/
theorem exists_limit_iff (data : Value) :
    (∃ name source t e, compile name source = .ok t ∧ (t.run data).fault = some (.limit e)) ↔
      data.HoldsLongInteger := by
  constructor
  · rintro ⟨name, source, t, e, h, he⟩
    by_contra hlong
    exact unlimited_run h (short_iff.mpr hlong) e he
  · intro hlong
    have h : compile "" "\x7b\x7b.\x7d\x7d" = .ok ⟨"", "\x7b\x7b.\x7d\x7d",
        [.action ⟨0, "\x7b\x7b.\x7d\x7d".toList⟩ (.mk (.mk .dot []) [])]⟩ := by
      with_unfolding_all rfl
    have hprint := print_of_not_short fun hshort => short_iff.mp hshort hlong
    have hrun : runNodes data data
        [.action ⟨0, "\x7b\x7b.\x7d\x7d".toList⟩ (.mk (.mk .dot []) [])] =
          (writeValue data).append (.write "") := rfl
    refine ⟨_, _, _, .writing, h, ?_⟩
    rw [run, hrun, writeValue, hprint]
    rfl

/-- How executing may end: it does not fail, it fails at an action or a block of the template, or
the data holds an integer of too many digits. -/
inductive Ends (t : Template) (data : Value) : Option Failure → Prop
  | done : Ends t data none
  | exec {site cause e} : site ∈ sitesOf t.nodes → t.failure (.at site cause) = .exec e →
      Ends t data (some (.exec e))
  | limit {e} : data.HoldsLongInteger → Ends t data (some (.limit e))

/-- Executing a compiled template is contained, whatever the data is and the buffer holds. -/
theorem execute_contained {name source : String} {t : Template} (h : compile name source = .ok t)
    (data : Value) (buffer : String) : Ends t data (t.execute data buffer).2 := by
  have hsites := failsIn_runNodes data data t.nodes
  change Ends t data ((t.run data).fault.map t.failure)
  cases hf : (t.run data).fault with
  | none => exact .done
  | some f =>
    cases f with
    | «at» site cause => exact .exec (hsites site cause hf) rfl
    | limit e =>
      refine .limit (not_not.mp fun hlong => ?_)
      exact unlimited_run h (short_iff.mpr hlong) e hf

/-- A text is written, and then a field of it is asked for. -/
theorem execute_contained_field : ∃ t,
    compile "t" "\x7b\x7b .Name \x7d\x7d\x7b\x7b .Name.x \x7d\x7d" = .ok t ∧
    t.execute (.map [("Name", .text "ab")]) "> " =
      ("> ab", some (.exec ⟨"t", 1, 11, "\x7b\x7b .Name.x \x7d\x7d", .noField "x" "str"⟩)) ∧
    Ends t (.map [("Name", .text "ab")]) (t.execute (.map [("Name", .text "ab")]) "> ").2 := by
  have h : compile "t" "\x7b\x7b .Name \x7d\x7d\x7b\x7b .Name.x \x7d\x7d" = .ok
      ⟨"t", "\x7b\x7b .Name \x7d\x7d\x7b\x7b .Name.x \x7d\x7d",
      [.action ⟨0, "\x7b\x7b .Name \x7d\x7d".toList⟩
        (.mk (.mk (.field false ["Name"]) []) []),
      .action ⟨11, "\x7b\x7b .Name.x \x7d\x7d".toList⟩
        (.mk (.mk (.field false ["Name", "x"]) []) [])]⟩ := by
    with_unfolding_all rfl
  exact ⟨_, h, by with_unfolding_all rfl, execute_contained h _ _⟩

end AlertRelay.Template
