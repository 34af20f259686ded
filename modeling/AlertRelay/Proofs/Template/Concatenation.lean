import AlertRelay.Proofs.Template.Faults
import AlertRelay.Proofs.Template.Joining
import AlertRelay.Proofs.Template.Shifting
import AlertRelay.Proofs.Template.TreeReading
import AlertRelay.Template.Basic

/-!
Templates compose: two sources written one behind the other write what each of them writes, one
after the other.
-/

namespace AlertRelay.Template

variable {source cs ds : List Char} {ps qs rs : List Piece} {ns ms : List Node}

/-- A text at the end is the last node. -/
theorem exists_nodes_before_text {pos : Nat} {content : List Char}
    (h : IsTemplate source 0 (tokens (ps ++ [.text pos content])) ns) :
    ∃ before, ns = before ++ [.text content] ∧ IsTemplate source 0 (tokens ps) before := by
  obtain ⟨qs, ht, hr⟩ := h.read
  cases tokens_injective ht
  have hfold := hr .start rfl
  rw [List.foldlM_append] at hfold
  cases hg : ps.foldlM (Growth.step source) .start with
  | error e =>
    rw [hg] at hfold
    cases hfold
  | ok g =>
    rw [hg] at hfold
    have hpush : g.push (.text content) = ⟨ns.reverse ++ [], []⟩ := Except.ok.inj hfold
    obtain ⟨nodes, frames⟩ := g
    injection hpush with hnodes hframes
    subst hframes
    refine ⟨nodes.reverse, ?_, isTemplate_of_readTree ?_⟩
    · rw [← List.reverse_cons, hnodes, List.append_nil, List.reverse_reverse]
    · unfold readTree
      rw [hg]
      rfl

/-!
Runs, one after the other.
-/

theorem Run.append_assoc (a b c : Run) : (a.append b).append c = a.append (b.append c) := by
  obtain ⟨text, fault⟩ := a
  cases fault with
  | some f => rfl
  | none =>
    obtain ⟨text', fault'⟩ := b
    cases fault' with
    | some f => rfl
    | none => simp [Run.append, String.append_assoc]

theorem Run.write_empty_append (a : Run) : (Run.write "").append a = a := by
  simp [Run.append, Run.write]

theorem runNodes_append (root dot : Value) (ns ms : List Node) :
    runNodes root dot (ns ++ ms) = (runNodes root dot ns).append (runNodes root dot ms) := by
  induction ns with
  | nil => rw [List.nil_append, runNodes, Run.write_empty_append]
  | cons n ns ih => rw [List.cons_append, runNodes, runNodes, ih, Run.append_assoc]

theorem run_text_append (root dot : Value) (a b : List Char) :
    (Node.text (a ++ b)).run root dot =
      ((Node.text a).run root dot).append ((Node.text b).run root dot) := by
  simp [Node.run, Run.write, Run.append]

/-- Joined pieces make up a tree that runs as the trees of both parts do. -/
theorem Joins.exists_nodes (h : Joins ps qs rs) (hp : IsTemplate source 0 (tokens ps) ns)
    (hq : IsTemplate source 0 (tokens qs) ms) :
    ∃ os, IsTemplate source 0 (tokens rs) os ∧ ∀ root dot,
      runNodes root dot os = (runNodes root dot ns).append (runNodes root dot ms) := by
  cases h with
  | apart =>
    refine ⟨ns ++ ms, ?_, fun root dot => runNodes_append root dot ns ms⟩
    rw [tokens_append]
    exact hp.append hq
  | @merged ps qs pos pos' a b =>
    obtain ⟨before, rfl, hbefore⟩ := exists_nodes_before_text hp
    cases hq with
    | @text _ _ _ _ after hafter =>
      refine ⟨before ++ .text (a ++ b) :: after, ?_, fun root dot => ?_⟩
      · rw [tokens_append]
        exact hbefore.append (.text hafter)
      · rw [runNodes_append, runNodes_append, runNodes, runNodes, runNodes, runNodes,
          run_text_append]
        simp only [Run.append_assoc, Run.write_empty_append]

/-!
Excerpts in the two parts of a source.
-/

theorem ReadsPieces.sameExcerpts (h : ReadsPieces 0 cs ps) (ds : List Char) :
    SameExcerpts cs (cs ++ ds) 0 (tokens ps) := by
  intro close stop hm pos
  have hwithin : close ≤ 0 + cs.length ∧ stop ≤ 0 + cs.length := h.within _ hm
  unfold Growth.excerpt
  rw [Nat.zero_add, Nat.zero_add, List.drop_append, List.take_append_of_le_length]
  rw [List.length_drop]
  omega

theorem sameExcerpts_behind (cs ds : List Char) (ts : List Token) :
    SameExcerpts ds (cs ++ ds) cs.length ts := by
  intro close stop _ pos
  unfold Growth.excerpt
  rw [List.drop_append, List.drop_eq_nil_of_le (Nat.le_add_right ..), List.nil_append,
    Nat.add_sub_cancel_left, Nat.add_sub_add_left]

theorem readNodes_eq_ok_iff {name : String} : readNodes name source = .ok ns ↔
    ∃ ps, ReadsPieces 0 source ps ∧ IsTemplate source 0 (tokens ps) ns := by
  unfold readNodes
  constructor
  · intro h
    split at h
    · cases h
    · cases h
    · next ps hps =>
      split at h
      · cases h
      · next ms hms =>
        cases h
        exact ⟨ps, pieces_eq_ok_iff.mp hps, isTemplate_of_readTree hms⟩
  · rintro ⟨ps, hps, hns⟩
    rw [pieces_eq_ok_iff.mpr hps]
    dsimp only
    rw [readTree_of_isTemplate hns]

/-- The tree of two sources in one runs as both trees do, the second of them further on. -/
theorem exists_nodes_append {name : String} (h₁ : readNodes name cs = .ok ns)
    (h₂ : readNodes name ds = .ok ms) (hs : Seam cs ds) :
    ∃ os, readNodes name (cs ++ ds) = .ok os ∧ ∀ root dot, runNodes root dot os =
      (runNodes root dot ns).append ((runNodes root dot ms).shift cs.length) := by
  obtain ⟨ps, hps, hns⟩ := readNodes_eq_ok_iff.mp h₁
  obtain ⟨qs, hqs, hms⟩ := readNodes_eq_ok_iff.mp h₂
  -- Both trees are trees of the joined source: the first where it stands, the second further on.
  have hns : IsTemplate (cs ++ ds) 0 (tokens ps) ns := by
    have hshift := hns.shift (hps.sameExcerpts ds)
    rwa [shiftNodes_zero, funext Token.shift_zero, List.map_id'] at hshift
  have hms : IsTemplate (cs ++ ds) 0 (tokens (qs.map (Piece.shift cs.length)))
      (shiftNodes cs.length ms) := by
    rw [tokens_shift]
    exact hms.shift (sameExcerpts_behind cs ds _)
  have hqs : ReadsPieces (0 + cs.length) ds (qs.map (Piece.shift cs.length)) := by
    rw [Nat.zero_add]
    exact hqs.shift cs.length
  obtain ⟨rs, hrs, hjoin⟩ := hps.append hs hqs
  obtain ⟨os, hos, hrun⟩ := hjoin.exists_nodes hns hms
  refine ⟨os, readNodes_eq_ok_iff.mpr ⟨rs, hrs, hos⟩, fun root dot => ?_⟩
  rw [hrun, runNodes_shift]

/-!
Failures.
-/

/-- The same failure, but so many lines further down, and in a column of its own. -/
inductive Failure.SameReason (lines : Nat) : Failure → Failure → Prop
  | exec {e column} :
      SameReason lines (.exec e) (.exec { e with line := e.line + lines, column := column })
  | limit {e} : SameReason lines (.limit e) (.limit e)

theorem site_le_of_fault {name : String} (h : readNodes name cs = .ok ns) {root dot : Value}
    {site : Site} {cause : Cause} (hf : (runNodes root dot ns).fault = some (.at site cause)) :
    site.pos ≤ cs.length := by
  obtain ⟨ps, hps, hns⟩ := readNodes_eq_ok_iff.mp h
  have hwithin : ∀ t ∈ tokens ps, t.Within cs.length := by
    have hall := hps.within
    rwa [Nat.zero_add] at hall
  exact hns.site_le hwithin site (failsIn_runNodes root dot ns site cause hf)

/-- What fails in the source in front fails with the same message. -/
theorem failure_front {name s₁ s₂ : String} {f : Fault} (ns os : List Node)
    (h : ∀ site cause, f = .at site cause → site.pos ≤ s₁.toList.length) :
    failure ⟨name, s₁ ++ s₂, os⟩ f = failure ⟨name, s₁, ns⟩ f := by
  cases f with
  | limit e => rfl
  | «at» site cause =>
    have htake : (s₁ ++ s₂).toList.take site.pos = s₁.toList.take site.pos := by
      rw [String.toList_append]
      exact List.take_append_of_le_length (h site cause rfl)
    simp only [failure, lineAt, columnAt, htake]

theorem failure_behind (name s₁ s₂ : String) (ms os : List Node) (f : Fault) :
    (failure ⟨name, s₂, ms⟩ f).SameReason (s₁.toList.count '\n')
      (failure ⟨name, s₁ ++ s₂, os⟩ (f.shift s₁.toList.length)) := by
  cases f with
  | limit e => exact .limit
  | «at» site cause =>
    have hline : lineAt (s₁ ++ s₂).toList (s₁.toList.length + site.pos) =
        lineAt s₂.toList site.pos + s₁.toList.count '\n' := by
      rw [String.toList_append, lineAt, lineAt, List.take_append, List.count_append,
        List.take_of_length_le (Nat.le_add_right ..), Nat.add_sub_cancel_left]
      omega
    simp only [failure, Fault.shift, Site.shift, hline]
    exact .exec

/-- A template that writes what two others write, one after the other, and fails where they do.
Between the two there are so many lines. -/
structure Composes (lines : Nat) (t₁ t₂ t : Template) : Prop where
  both : ∀ data x y, t₁.execute data "" = (x, none) → t₂.execute data "" = (y, none) →
    ∀ buffer, t.execute data buffer = (buffer ++ x ++ y, none)
  first : ∀ data x e, t₁.execute data "" = (x, some e) →
    ∀ buffer, t.execute data buffer = (buffer ++ x, some e)
  second : ∀ data x y e, t₁.execute data "" = (x, none) → t₂.execute data "" = (y, some e) →
    ∃ e', e.SameReason lines e' ∧ ∀ buffer, t.execute data buffer = (buffer ++ x ++ y, some e')

theorem execute_eq_none_iff {t : Template} {data : Value} {x : String} :
    t.execute data "" = (x, none) ↔ t.run data = ⟨x, none⟩ := by
  unfold execute
  obtain ⟨text, fault⟩ := t.run data
  cases fault <;> simp

theorem execute_eq_some_iff {t : Template} {data : Value} {x : String} {e : Failure} :
    t.execute data "" = (x, some e) ↔ ∃ f, t.run data = ⟨x, some f⟩ ∧ t.failure f = e := by
  unfold execute
  obtain ⟨text, fault⟩ := t.run data
  cases fault with
  | none => simp
  | some f =>
    constructor
    · intro h
      simp only [String.empty_append, Option.map_some, Prod.mk.injEq, Option.some.injEq] at h
      exact ⟨f, by rw [h.1], h.2⟩
    · rintro ⟨f', hf, rfl⟩
      cases hf
      simp

/-- Two sources that compile, and that do not run into each other, make up one that compiles and
does what both do. -/
theorem compile_append {name s₁ s₂ : String} {t₁ t₂ : Template} (h₁ : compile name s₁ = .ok t₁)
    (h₂ : compile name s₂ = .ok t₂) (hs : Seam s₁.toList s₂.toList) :
    ∃ t, compile name (s₁ ++ s₂) = .ok t ∧ Composes (s₁.toList.count '\n') t₁ t₂ t := by
  obtain ⟨ns, hns, rfl⟩ := map_eq_ok h₁
  obtain ⟨ms, hms, rfl⟩ := map_eq_ok h₂
  obtain ⟨os, hos, hrun⟩ := exists_nodes_append hns hms hs
  refine ⟨⟨name, s₁ ++ s₂, os⟩, ?_, ?_, ?_, ?_⟩
  · rw [compile, String.toList_append, hos]
    rfl
  · intro data x y hx hy buffer
    have hx : runNodes data data ns = ⟨x, none⟩ := execute_eq_none_iff.mp hx
    have hy : runNodes data data ms = ⟨y, none⟩ := execute_eq_none_iff.mp hy
    have hall : runNodes data data os = ⟨x ++ y, none⟩ := by
      rw [hrun, hx, hy]
      rfl
    simp only [execute, run, hall, Option.map_none, String.append_assoc]
  · intro data x e hx buffer
    obtain ⟨f, hf, rfl⟩ := execute_eq_some_iff.mp hx
    have hx : runNodes data data ns = ⟨x, some f⟩ := hf
    have hall : runNodes data data os = ⟨x, some f⟩ := by
      rw [hrun, hx]
      rfl
    have hsite : ∀ site cause, f = .at site cause → site.pos ≤ s₁.toList.length := by
      rintro site cause rfl
      exact site_le_of_fault hns (congrArg Run.fault hx)
    simp only [execute, run, hall, Option.map_some]
    rw [failure_front ns os hsite]
  · intro data x y e hx hy
    obtain ⟨f, hf, rfl⟩ := execute_eq_some_iff.mp hy
    have hx : runNodes data data ns = ⟨x, none⟩ := execute_eq_none_iff.mp hx
    have hy : runNodes data data ms = ⟨y, some f⟩ := hf
    have hall : runNodes data data os = ⟨x ++ y, some (f.shift s₁.toList.length)⟩ := by
      rw [hrun, hx, hy]
      rfl
    refine ⟨_, failure_behind name s₁ s₂ ms os f, fun buffer => ?_⟩
    simp only [execute, run, hall, Option.map_some, String.append_assoc]

/-- Trim markers on both sides of the seam, and a failure behind it. -/
theorem compile_append_trimmed : ∃ t₁ t₂ t,
    compile "t" "a\n\x7b\x7b- .Name -\x7d\x7d" = .ok t₁ ∧
    compile "t" "\x7b\x7b- print \"\x7d\x7d\" -\x7d\x7d b\x7b\x7b .Name.x \x7d\x7d" = .ok t₂ ∧
    Seam "a\n\x7b\x7b- .Name -\x7d\x7d".toList
      "\x7b\x7b- print \"\x7d\x7d\" -\x7d\x7d b\x7b\x7b .Name.x \x7d\x7d".toList ∧
    compile "t" ("a\n\x7b\x7b- .Name -\x7d\x7d" ++
      "\x7b\x7b- print \"\x7d\x7d\" -\x7d\x7d b\x7b\x7b .Name.x \x7d\x7d") = .ok t ∧
    ∃ column, t.execute (.map [("Name", .text "N")]) "> " = ("> aN\x7d\x7db", some (.exec
      ⟨"t", 2, column, "\x7b\x7b .Name.x \x7d\x7d", .noField "x" "str"⟩)) := by
  have h₁ : compile "t" "a\n\x7b\x7b- .Name -\x7d\x7d" = .ok ⟨"t", "a\n\x7b\x7b- .Name -\x7d\x7d",
      [.text ['a'], .action ⟨2, "\x7b\x7b- .Name -\x7d\x7d".toList⟩
        (.mk (.mk (.field false ["Name"]) []) [])]⟩ := by
    with_unfolding_all rfl
  have h₂ : compile "t" "\x7b\x7b- print \"\x7d\x7d\" -\x7d\x7d b\x7b\x7b .Name.x \x7d\x7d" =
      .ok ⟨"t", "\x7b\x7b- print \"\x7d\x7d\" -\x7d\x7d b\x7b\x7b .Name.x \x7d\x7d",
        [.action ⟨0, "\x7b\x7b- print \"\x7d\x7d\" -\x7d\x7d".toList⟩
          (.mk (.mk (.function .print) [.constant (.text "\x7d\x7d")]) []),
        .text ['b'],
        .action ⟨20, "\x7b\x7b .Name.x \x7d\x7d".toList⟩
          (.mk (.mk (.field false ["Name", "x"]) []) [])]⟩ := by
    with_unfolding_all rfl
  have hs : Seam "a\n\x7b\x7b- .Name -\x7d\x7d".toList
      "\x7b\x7b- print \"\x7d\x7d\" -\x7d\x7d b\x7b\x7b .Name.x \x7d\x7d".toList := by
    rintro a ha b hb
    cases ha
    cases hb
    decide
  obtain ⟨t, ht, hc⟩ := compile_append h₁ h₂ hs
  refine ⟨_, _, t, h₁, h₂, hs, ht, ?_⟩
  obtain ⟨e, he, hrun⟩ := hc.second (.map [("Name", .text "N")]) "aN" "\x7d\x7db"
    (.exec ⟨"t", 1, 20, "\x7b\x7b .Name.x \x7d\x7d", .noField "x" "str"⟩)
    (by with_unfolding_all rfl) (by with_unfolding_all rfl)
  cases he
  exact ⟨_, hrun "> "⟩

end AlertRelay.Template
