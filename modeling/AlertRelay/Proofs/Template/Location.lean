import AlertRelay.Proofs.Template.ActionReading
import AlertRelay.Proofs.Template.Balance
import AlertRelay.Proofs.Template.Concatenation
import AlertRelay.Proofs.Template.Lines
import AlertRelay.Proofs.Template.Stations

/-!
Where an execution error points. Its line and column lead back to the place where its excerpt stands
in the source, and the excerpt is the action that fails; only where that action goes on from an
`else`, both begin at this word and not at the delimiter before it.
-/

namespace AlertRelay.Template

/-- An error points at an action of the source, whose characters are `chars`, and over which
execution fails. -/
structure PointsAt (source : List Char) (data : Value) (e : ExecError) (a : Action)
    (chars : List Char) : Prop where
  piece : ∃ ps, pieces source = .ok ps ∧ .action a ∈ ps
  stands : ∃ before behind, source = before ++ (chars ++ behind) ∧ a.pos = before.length
  written : a.IsWritten chars
  fails : ∃ s, a.Bears source s ∧ s.Fails data e.cause
  whole : (∀ k, ¬ (Piece.action a).GoesOn k) →
    e.excerpt.toList = chars ∧ offset source e.line e.column = a.pos
  chained : ∀ k, (Piece.action a).GoesOn k → ∃ lead, chars = lead ++ e.excerpt.toList ∧
    leftDelim <+: lead ∧ "else".toList <+: e.excerpt.toList ∧
    offset source e.line e.column = a.pos + lead.length

variable {source before chars behind : List Char} {a : Action}

theorem excerpt_of_split (h : source = before ++ (chars ++ behind)) :
    Growth.excerpt source before.length (before.length + chars.length) = chars := by
  rw [h, Growth.excerpt, List.drop_left, Nat.add_sub_cancel_left, List.take_left]

theorem not_goesOn_of_isPipeline {d : Nat} {p : Pipeline} (h : IsPipeline d a.items p)
    (k : Keyword) : ¬ (Piece.action a).GoesOn k := by
  rintro ⟨⟩
  obtain ⟨f, hf⟩ := h.head_word
  have hnone : Builtin.ofName? "else" = none := by decide
  rw [hnone] at hf
  cases hf

theorem not_goesOn_of_keyword {k : Keyword} {wordPos : Nat} {items : List Placed}
    (h : a.items = ⟨.word k.name, wordPos⟩ :: items) (k' : Keyword) :
    ¬ (Piece.action a).GoesOn k' := by
  rintro ⟨⟩
  have hne : k.name ≠ "else" := by cases k <;> decide
  have hhead := (List.cons.inj h).1
  exact hne (Item.word.inj (Placed.mk.inj hhead).1).symm

theorem goesOn_of_items {k : Keyword} {elsePos wordPos : Nat} {items : List Placed}
    (h : a.items = ⟨.word "else", elsePos⟩ :: ⟨.word k.name, wordPos⟩ :: items) :
    (Piece.action a).GoesOn k := by
  obtain ⟨pos, items', close, stop⟩ := a
  cases h
  exact .mk

/-- An error at the place of a station points at the action that bears it. -/
theorem Action.Bears.pointsAt {data : Value} {e : ExecError} {s : Station} {ps : List Piece}
    (h : a.Bears source s) (hfails : s.Fails data e.cause) (hps : pieces source = .ok ps)
    (ha : .action a ∈ ps) (hline : e.line = lineAt source s.site.pos)
    (hcolumn : e.column = columnAt source s.site.pos)
    (hexcerpt : e.excerpt.toList = s.site.excerpt) : ∃ chars, PointsAt source data e a chars := by
  obtain ⟨before, chars, behind, hsplit, hpos, hwritten⟩ :=
    (pieces_eq_ok_iff.mp hps).exists_action ha
  rw [Nat.zero_add] at hpos
  have hwhole : Growth.excerpt source a.pos a.stop = chars := by
    rw [hwritten.stop, hpos]
    exact excerpt_of_split hsplit
  have hoffset (hle : s.site.pos ≤ source.length) :
      offset source e.line e.column = s.site.pos := by
    rw [hline, hcolumn]
    exact offset_lineAt_columnAt hle
  have hle : a.pos + chars.length ≤ source.length := by
    rw [hsplit, hpos]
    simp only [List.length_append]
    omega
  refine ⟨chars, ⟨ps, hps, ha⟩, ⟨before, behind, hsplit, hpos⟩, hwritten, ⟨s, h, hfails⟩, ?_, ?_⟩
  · intro hnot
    cases h with
    | value | block => exact ⟨hexcerpt.trans hwhole, hoffset (by dsimp only; omega)⟩
    | chain hitems => exact absurd (goesOn_of_items hitems) (hnot _)
  · intro k hk
    cases h with
    | value hp => exact absurd hk (not_goesOn_of_isPipeline hp k)
    | block hitems => exact absurd hk (not_goesOn_of_keyword hitems k)
    | @chain _ elsePos _ _ _ _ hitems =>
      obtain ⟨lead, rfl, hlead, shown, hshown⟩ := hwritten.word _ _ _ hitems
      rw [List.append_assoc] at hshown
      have hfront : source = (before ++ lead) ++ ("else".toList ++ shown ++ behind) := by
        rw [hsplit, ← hshown]
        simp only [List.append_assoc]
      have hstop : a.stop = (before ++ lead).length + ("else".toList ++ shown).length := by
        rw [hwritten.stop, hpos, ← hshown]
        simp only [List.length_append]
        omega
      have hshow : e.excerpt.toList = "else".toList ++ shown := by
        rw [hexcerpt, ← excerpt_of_split hfront, ← hstop, hpos, List.length_append]
      refine ⟨lead, by rw [hshow, hshown], hlead, ⟨shown, hshow.symm⟩, hoffset ?_⟩
      rw [← hshown, List.length_append] at hle
      dsimp only
      omega

/-- Every execution error of a source that compiles points at an action of it. -/
theorem error_points_at_action {name source : String} {t : Template} {data : Value}
    {buffer text : String} {e : ExecError} (hc : compile name source = .ok t)
    (he : t.execute data buffer = (text, some (.exec e))) :
    ∃ a chars, PointsAt source.toList data e a chars := by
  obtain ⟨ns, hns, rfl⟩ := map_eq_ok hc
  obtain ⟨ps, hps, htree⟩ := readNodes_eq_ok_iff.mp hns
  have hfault := (Prod.mk.inj he).2
  obtain ⟨f, hf, hfailure⟩ := Option.map_eq_some_iff.mp hfault
  cases f with
  | limit l => cases hfailure
  | «at» site cause =>
    cases hfailure
    obtain ⟨s, hs, rfl, hfails⟩ := comesFrom_runNodes data ns hf
    obtain ⟨a, htokens, hbears⟩ := htree.isBorne s hs
    exact ⟨a, hbears.pointsAt hfails (pieces_eq_ok_iff.mpr hps) (mem_of_action_tokens htokens) rfl
      rfl String.toList_ofList⟩

/-- A condition that goes on over two lines. -/
theorem error_points_at_condition : ∃ t,
    compile "n" "a\n\x7b\x7b- if\n .ID.x\x7d\x7db\x7b\x7bend\x7d\x7d" = .ok t ∧
    t.execute (.record "t" "" "" [] []) "" = ("a", some (.exec
      ⟨"n", 2, 0, "\x7b\x7b- if\n .ID.x\x7d\x7d", .noField "x" "str"⟩)) ∧
    ∃ a chars, PointsAt "a\n\x7b\x7b- if\n .ID.x\x7d\x7db\x7b\x7bend\x7d\x7d".toList
      (.record "t" "" "" [] [])
      ⟨"n", 2, 0, "\x7b\x7b- if\n .ID.x\x7d\x7d", .noField "x" "str"⟩ a chars := by
  have hc : compile "n" "a\n\x7b\x7b- if\n .ID.x\x7d\x7db\x7b\x7bend\x7d\x7d" =
      .ok ⟨"n", "a\n\x7b\x7b- if\n .ID.x\x7d\x7db\x7b\x7bend\x7d\x7d",
        [.text ['a'], .block .cond ⟨2, "\x7b\x7b- if\n .ID.x\x7d\x7d".toList⟩
          (.mk (.mk (.field false ["ID", "x"]) []) []) [.text ['b']] []]⟩ := by
    with_unfolding_all rfl
  have he (t) (ht : compile "n" "a\n\x7b\x7b- if\n .ID.x\x7d\x7db\x7b\x7bend\x7d\x7d" = .ok t) :
      t.execute (.record "t" "" "" [] []) "" = ("a", some (.exec
        ⟨"n", 2, 0, "\x7b\x7b- if\n .ID.x\x7d\x7d", .noField "x" "str"⟩)) := by
    cases hc.symm.trans ht
    with_unfolding_all rfl
  exact ⟨_, hc, he _ hc, error_points_at_action hc (he _ hc)⟩

/-- Behind an `else`, an error shows no opening delimiter. -/
theorem error_points_at_else : ∃ t e,
    compile "n" "\x7b\x7bif .ID\x7d\x7da\x7b\x7belse if .ID.x\x7d\x7db\x7b\x7bend\x7d\x7d" = .ok t ∧
    t.execute (.record "" "" "" [] []) "" = ("", some (.exec e)) ∧
    e = ⟨"n", 1, 13, "else if .ID.x\x7d\x7d", .noField "x" "str"⟩ ∧
    ¬ leftDelim <+: e.excerpt.toList := by
  refine ⟨⟨"n", "\x7b\x7bif .ID\x7d\x7da\x7b\x7belse if .ID.x\x7d\x7db\x7b\x7bend\x7d\x7d",
    [.block .cond ⟨0, "\x7b\x7bif .ID\x7d\x7d".toList⟩ (.mk (.mk (.field false ["ID"]) []) [])
      [.text ['a']] [.block .cond ⟨13, "else if .ID.x\x7d\x7d".toList⟩
        (.mk (.mk (.field false ["ID", "x"]) []) []) [.text ['b']] []]]⟩, _, ?_, ?_, rfl, ?_⟩
  · with_unfolding_all rfl
  · with_unfolding_all rfl
  · decide

end AlertRelay.Template
