import AlertRelay.Proofs.Template.Conversion
import AlertRelay.Proofs.Template.Directives
import AlertRelay.Template.Function

/-!
What a format comes to. Its literal characters are kept, the directives take the arguments one by
one, and what is left of the arguments is listed at the end; so each argument is accounted for.
-/

namespace AlertRelay.Template

/-- Whether a part of a format takes an argument. -/
def Chunk.takes : Chunk → Bool
  | .literal _ => false
  | .directive d => d.verb != '%'

/-- The parts of a format, each with the number of arguments taken before it, when `n` are taken
before the first. -/
def numbered (n : Nat) : List Chunk → List (Nat × Chunk)
  | [] => []
  | x :: rest => (n, x) :: numbered (if x.takes then n + 1 else n) rest

/-- What stands for a part of a format, before which `n` of the arguments are taken. -/
inductive Stands (vs : List Value) (n : Nat) : Chunk → List Char → Prop
  | literal {c} : Stands vs n (.literal c) [c]
  | percent {d : Directive} : d.verb = '%' → Stands vs n (.directive d) ['%']
  | argument {d : Directive} {v t} : d.verb ≠ '%' → vs[n]? = some v → d.Converts v t →
      Stands vs n (.directive d) t
  | missing {d : Directive} : d.verb ≠ '%' → vs.length ≤ n →
      Stands vs n (.directive d) ('%' :: '!' :: d.verb :: "(MISSING)".toList)

/-- An argument that is left over, with its type. -/
def IsListed (v : Value) (t : String) : Prop := ∃ s, v.print = .ok s ∧ t = v.typeName ++ "=" ++ s

/-- What is added at the end for the arguments that are left over. -/
inductive LeftOver : List Value → List Char → Prop
  | none : LeftOver [] []
  | some {v vs ts} : List.Forall₂ IsListed (v :: vs) ts →
      LeftOver (v :: vs) ("%!(EXTRA " ++ ", ".intercalate ts ++ ")").toList

theorem isListed_iff {v : Value} {t : String} :
    (do return v.typeName ++ "=" ++ (← Directive.printed v) : Except FormatError String) = .ok t ↔
      IsListed v t := by
  unfold Directive.printed IsListed
  cases v.print with
  | error e => simp [bind, Except.bind]
  | ok s => simp [bind, Except.bind, pure, Except.pure, eq_comm]

theorem extraText_eq_ok_iff {vs : List Value} {extra : List Char} :
    extraText vs = .ok extra ↔ LeftOver vs extra := by
  cases vs with
  | nil =>
    refine ⟨fun h => ?_, fun h => ?_⟩
    · cases h
      exact .none
    · cases h
      rfl
  | cons v vs =>
    unfold extraText
    rw [if_neg (by simp)]
    constructor
    · intro h
      cases hts : (v :: vs).mapM fun v =>
          do return v.typeName ++ "=" ++ (← Directive.printed v) with
      | error e =>
        rw [hts] at h
        cases h
      | ok ts =>
        rw [hts] at h
        cases h
        exact .some ((mapM_eq_ok_iff.mp hts).imp fun _ _ ht => isListed_iff.mp ht)
    · intro h
      cases h with
      | some hts =>
        rw [mapM_eq_ok_iff.mpr (hts.imp fun _ _ ht => isListed_iff.mpr ht)]
        rfl

/-- The text that stands for a part of a format, before which `n` of the arguments are taken. -/
def Chunk.fillWith (vs : List Value) (n : Nat) : Chunk → Except FormatError (List Char)
  | .literal c => .ok [c]
  | .directive d =>
    if d.verb == '%' then .ok ['%']
    else
      match vs[n]? with
      | some v => d.lay v
      | none => .ok d.missing

theorem fillWith_eq_ok_iff {vs : List Value} {n : Nat} {x : Chunk} {t : List Char} :
    x.fillWith vs n = .ok t ↔ Stands vs n x t := by
  cases x with
  | literal c =>
    refine ⟨fun h => ?_, fun h => ?_⟩
    · cases h
      exact .literal
    · cases h
      rfl
  | directive d =>
    unfold Chunk.fillWith
    dsimp only
    by_cases hp : d.verb = '%'
    · rw [if_pos (beq_iff_eq.mpr hp)]
      refine ⟨fun h => ?_, fun h => ?_⟩
      · cases h
        exact .percent hp
      · cases h with
        | percent => rfl
        | argument hne | missing hne => exact absurd hp hne
    · rw [if_neg (by simpa using hp)]
      cases hv : vs[n]? with
      | some v =>
        refine ⟨fun h => .argument hp hv (Directive.converts_of_lay h), fun h => ?_⟩
        cases h with
        | percent he => exact absurd he hp
        | argument _ hv' ht =>
          cases hv.symm.trans hv'
          exact ht.lay
        | missing _ hn =>
          rw [List.getElem?_eq_none hn] at hv
          cases hv
      | none =>
        refine ⟨fun h => ?_, fun h => ?_⟩
        · cases h
          exact .missing hp (List.getElem?_eq_none_iff.mp hv)
        · cases h with
          | percent he => exact absurd he hp
          | argument _ hv' _ =>
            rw [hv] at hv'
            cases hv'
          | missing => rfl

theorem fill_directive (d : Directive) (xs : List Chunk) (vs : List Value) :
    fill (.directive d :: xs) vs =
      if d.verb == '%' then do return '%' :: (← fill xs vs)
      else
        match vs with
        | [] => do return d.missing ++ (← fill xs [])
        | v :: vs => do
          let t ← d.lay v
          return t ++ (← fill xs vs) := by
  exact fill.eq_def _ _

theorem fill_cons (x : Chunk) (xs : List Chunk) (vs : List Value) (n : Nat) :
    fill (x :: xs) (vs.drop n) = do
      let t ← x.fillWith vs n
      let r ← fill xs (vs.drop (if x.takes then n + 1 else n))
      return t ++ r := by
  cases x with
  | literal c => rfl
  | directive d =>
    rw [fill_directive]
    unfold Chunk.fillWith Chunk.takes
    dsimp only
    by_cases hp : d.verb = '%'
    · rw [if_pos (beq_iff_eq.mpr hp), if_pos (beq_iff_eq.mpr hp), if_neg (by simp [hp])]
      rfl
    · rw [if_neg (by simpa using hp), if_neg (by simpa using hp), if_pos (by simpa using hp)]
      cases hv : vs[n]? with
      | none =>
        have hn := List.getElem?_eq_none_iff.mp hv
        rw [List.drop_eq_nil_of_le hn, List.drop_eq_nil_of_le (Nat.le_succ_of_le hn)]
        rfl
      | some v =>
        obtain ⟨hn, rfl⟩ := List.getElem?_eq_some_iff.mp hv
        rw [List.drop_eq_getElem_cons hn]

/-- The parts of a format are filled in as they are numbered. -/
theorem fill_eq_ok_iff {xs : List Chunk} {vs : List Value} {n : Nat} {out : List Char} :
    fill xs (vs.drop n) = .ok out ↔ ∃ ts extra, out = ts.flatten ++ extra ∧
      List.Forall₂ (fun p t => Stands vs p.1 p.2 t) (numbered n xs) ts ∧
      LeftOver (vs.drop (n + xs.countP Chunk.takes)) extra := by
  induction xs generalizing n out with
  | nil =>
    rw [fill, extraText_eq_ok_iff]
    constructor
    · exact fun h => ⟨[], out, rfl, .nil, h⟩
    · rintro ⟨ts, extra, rfl, ⟨⟩, h⟩
      exact h
  | cons x xs ih =>
    have hcount : n + (x :: xs).countP Chunk.takes =
        (if x.takes then n + 1 else n) + xs.countP Chunk.takes := by
      rw [List.countP_cons]
      split <;> omega
    rw [fill_cons, hcount, numbered]
    constructor
    · intro h
      obtain ⟨t, ht, h⟩ := bind_eq_ok_iff.mp h
      obtain ⟨r, hr, h⟩ := bind_eq_ok_iff.mp h
      cases h
      obtain ⟨ts, extra, rfl, hts, hextra⟩ := ih.mp hr
      exact ⟨t :: ts, extra, by simp, .cons (fillWith_eq_ok_iff.mp ht) hts, hextra⟩
    · rintro ⟨ts, extra, rfl, hts, hextra⟩
      cases hts with
      | @cons _ t _ ts ht hts =>
        refine bind_eq_ok_iff.mpr ⟨t, fillWith_eq_ok_iff.mpr ht, ?_⟩
        refine bind_eq_ok_iff.mpr ⟨_, ih.mpr ⟨ts, extra, rfl, hts, hextra⟩, ?_⟩
        rw [List.flatten_cons, List.append_assoc]
        rfl

example : Builtin.printf.apply [.text "%5%%-3s|%x", .text "a", .bool true, .nil] =
    .ok (.text "%a  |%!x(bool=true)%!(EXTRA NoneType=<nil>)") := by
  with_unfolding_all rfl

end AlertRelay.Template
