import AlertRelay.Proofs.Template.BodyReading
import AlertRelay.Proofs.Template.DescentReading
import AlertRelay.Template.Basic

/-!
Compiling is contained: it gives a template or tells a flaw and the line it is on, and only a run of
too many digits can break it off. Reading never runs out of tokens, nor into one that it has no
place for.
-/

namespace AlertRelay.Template

open AlertRelay.Number AlertRelay.Text

/-!
Runs of too many digits.
-/

theorem hasLongRun_of_itemsAt {start pos : Nat} {cs : List Char} {e : LimitError}
    (h : itemsAt start pos cs = .error (.limit e)) : HasLongRun cs := by
  fun_induction itemsAt start pos cs with
  | case1 | case2 | case3 => cases h
  | case4 pos cs blanks c r hd hclose e' hi =>
    cases h
    have hsuffix : c :: r <:+ cs := hd ▸ List.dropWhile_suffix isBlank
    exact (hasLongRun_of_itemAt hi).mono hsuffix.isInfix
  | case5 pos cs blanks c r hd hclose item n hi =>
    rename_i ih
    have hsuffix : c :: r <:+ cs := hd ▸ List.dropWhile_suffix isBlank
    have hrest : r.drop n <:+ cs :=
      ((List.drop_suffix n r).trans (List.suffix_cons c r)).trans hsuffix
    exact (ih (map_eq_error h)).mono hrest.isInfix

theorem commentAt_ne_limit {start pos : Nat} {cs : List Char} {e : LimitError} :
    commentAt start pos cs ≠ .error (.limit e) := by
  intro h
  unfold commentAt at h
  split at h
  · cases h
  · dsimp only at h
    split at h <;> cases h

theorem hasLongRun_of_bodyAt {start pos : Nat} {cs : List Char} {e : LimitError}
    (h : bodyAt start pos cs = .error (.limit e)) : HasLongRun cs := by
  unfold bodyAt at h
  dsimp only at h
  split at h
  · exact absurd h commentAt_ne_limit
  · exact hasLongRun_of_itemsAt h

theorem hasLongRun_of_piecesAt {pos : Nat} {cs : List Char} {e : LimitError}
    (h : piecesAt pos cs = .error (.limit e)) : HasLongRun cs := by
  fun_induction piecesAt pos cs with
  | case1 => cases h
  | case2 pos cs text htext start inner dash e' hbody =>
    cases h
    have hinner : inner.drop dash <:+ cs := (List.drop_suffix ..).trans (List.drop_suffix ..)
    exact (hasLongRun_of_bodyAt hbody).mono hinner.isInfix
  | case3 pos cs text htext start inner dash b hbody blanks kept here ih =>
    have hinner : inner.drop dash <:+ cs := (List.drop_suffix ..).trans (List.drop_suffix ..)
    obtain ⟨u, hu, -, -⟩ := (readsBody_of_bodyAt hbody).exists_chars
    have hrest : b.rest <:+ inner.drop dash := ⟨u ++ closer b.trim, by rw [hu, List.append_assoc]⟩
    have hsuffix : b.rest.drop blanks <:+ cs := ((List.drop_suffix ..).trans hrest).trans hinner
    exact (ih (map_eq_error h)).mono hsuffix.isInfix

/-!
Descent.
-/

theorem Halt.of_ne_throw {α : Type} {x : Except Located α} {halt : Halt}
    (h : ∀ e, halt ≠ .flaw e) : Halt.of x ≠ throw halt := by
  intro hx
  cases x with
  | ok a => cases hx
  | error e =>
    cases hx
    exact h e rfl

/-- Descent through the tokens of a source gives up at flaws only. -/
theorem descent_ne_throw {source : List Char} {ps : List Piece} {halt : Halt}
    (h : ∀ e, halt ≠ .flaw e) : Descent.template source (tokens ps) ≠ throw halt := by
  rw [template_tokens]
  exact Halt.of_ne_throw h

/-!
Compiling.
-/

/-- How compiling may end. -/
inductive Outcome (name source : String) : Except Failure Template → Prop
  | template {t} : Outcome name source (.ok t)
  | flaw {e : CompileError} {what : String} : 1 ≤ e.line →
      e.line ≤ source.toList.count '\n' + 1 →
      e.message = "template: " ++ name ++ ":" ++ toString e.line ++ ": " ++ what →
      Outcome name source (.error (.compile e))
  | limit {e} : HasLongRun source.toList → Outcome name source (.error (.limit e))

theorem outcome_flawAt (name source : String) (pos : Nat) (f : Flaw) :
    Outcome name source (.error (flawAt name source.toList pos f)) := by
  have hcount : (source.toList.take pos).count '\n' ≤ source.toList.count '\n' :=
    (List.take_sublist ..).count_le _
  refine .flaw ?_ ?_ rfl
  · exact Nat.le_add_left ..
  · exact Nat.succ_le_succ hcount

theorem outcome_compile (name source : String) : Outcome name source (compile name source) := by
  unfold compile readNodes
  cases hp : pieces source.toList with
  | error refusal =>
    cases refusal with
    | flaw pos f => exact outcome_flawAt name source pos f
    | limit e => exact .limit (hasLongRun_of_piecesAt hp)
  | ok ps =>
    dsimp only
    cases readTree source.toList ps with
    | error e => exact outcome_flawAt name source e.1 e.2
    | ok nodes => exact .template

/-- Compiling ends with a template, a flaw on a line of the source, or a run of too many digits. Its
tokens are read to the end as descent reads them, which looks behind none of them and finds an
operand wherever it looks for one. -/
structure Contained (name source : String) : Prop where
  outcome : Outcome name source (compile name source)
  descent : ∀ ps, pieces source.toList = .ok ps →
    Descent.template source.toList (tokens ps) = Halt.of (readTree source.toList ps)
  not_pastEnd : ∀ ps, pieces source.toList = .ok ps →
    Descent.template source.toList (tokens ps) ≠ throw .pastEnd
  not_stray : ∀ ps t, pieces source.toList = .ok ps →
    Descent.template source.toList (tokens ps) ≠ throw (.stray t)

theorem compile_contained (name source : String) : Contained name source where
  outcome := outcome_compile name source
  descent ps _ := template_tokens source.toList ps
  not_pastEnd _ _ := descent_ne_throw fun _ => Halt.noConfusion
  not_stray _ _ _ := descent_ne_throw fun _ => Halt.noConfusion

end AlertRelay.Template
