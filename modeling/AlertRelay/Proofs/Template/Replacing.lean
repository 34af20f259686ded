import AlertRelay.Proofs.Template.Concatenation
import AlertRelay.Proofs.Template.Piping

/-!
A chain of calls within a template may be written as a nest of calls, or the other way round: where
both spellings compile, what is written stays the same, and so does whether the run fails.
-/

namespace AlertRelay.Template

variable {E : Cause → Cause → Prop}

/-!
Pipelines with parts that may stand for each other.
-/

/-- Two operands, the same or two groups that come to the same. -/
inductive Operand.Alike (E : Cause → Cause → Prop) : Operand → Operand → Prop
  | same {o} : Operand.Alike E o o
  | group {p q} : p.Alike E q → Operand.Alike E (.group p) (.group q)

inductive Command.Alike (E : Cause → Cause → Prop) : Command → Command → Prop
  | mk {o o' os os'} : o.Alike E o' → List.Forall₂ (Operand.Alike E) os os' →
      Command.Alike E (.mk o os) (.mk o' os')

theorem Operand.Alike.value (hE : ∀ c, E c c) {o o' : Operand} (h : o.Alike E o')
    (root dot : Value) : Agrees E Eq (o.value root dot) (o'.value root dot) := by
  cases h with
  | same =>
    cases o.value root dot with
    | ok v => exact .ok rfl
    | error c => exact .error (hE c)
  | group hp => exact hp root dot

theorem operandValues_alike (hE : ∀ c, E c c) {os os' : List Operand}
    (h : List.Forall₂ (Operand.Alike E) os os') (root dot : Value) :
    Agrees E Eq (operandValues root dot os) (operandValues root dot os') := by
  induction h with
  | nil => exact .ok rfl
  | cons ho _ ih =>
    refine (ho.value hE root dot).bind fun v w hv => ih.bind fun vs ws hvs => ?_
    rw [hv, hvs]
    exact .ok rfl

theorem call_alike (hE : ∀ c, E c c) (f : Builtin) (vs : List Value) :
    Agrees E Eq (call f vs) (call f vs) := by
  cases call f vs with
  | ok v => exact .ok rfl
  | error c => exact .error (hE c)

theorem Command.Alike.value (hE : ∀ c, E c c) {c c' : Command} (h : c.Alike E c')
    (root dot : Value) (before : Option Value) :
    Agrees E Eq (c.value root dot before) (c'.value root dot before) := by
  obtain @⟨o, o', os, os', ho, hos⟩ := h
  have hrest : Agrees E Eq
      (if os.isEmpty && before.isNone then o.value root dot else .error .notFunction)
      (if os'.isEmpty && before.isNone then o'.value root dot else .error .notFunction) := by
    have hempty : os'.isEmpty = os.isEmpty := by cases hos <;> rfl
    rw [hempty]
    split
    · exact ho.value hE root dot
    · exact .error (hE _)
  cases ho with
  | group _ => exact hrest
  | same =>
    -- Only a function takes arguments; whatever else heads a command stands alone.
    cases o with
    | function f =>
      rw [Command.value, Command.value]
      refine (operandValues_alike hE hos root dot).bind fun vs ws hvs => ?_
      rw [hvs]
      exact call_alike hE f _
    | field _ _ | dot | constant _ | group _ => exact hrest

theorem Pipeline.Alike.snoc (hE : ∀ c, E c c) {p p' : Pipeline} (h : p.Alike E p') {c c' : Command}
    (hc : c.Alike E c') : (p.snoc c).Alike E (p'.snoc c') := by
  intro root dot
  rw [Pipeline.value_snoc, Pipeline.value_snoc]
  refine (h root dot).bind fun v w hv => ?_
  rw [hv]
  exact hc.value hE root dot (some w)

theorem Command.Alike.pipeline (hE : ∀ c, E c c) {c c' : Command} (h : c.Alike E c') :
    (Pipeline.mk c []).Alike E (.mk c' []) := by
  intro root dot
  refine (h.value hE root dot none).bind fun v w hv => ?_
  rw [hv]
  exact .ok rfl

/-!
Drafts.
-/

/-- The pipeline that the finished commands of a draft make up. -/
def Draft.before? (d : Draft) : Option Pipeline :=
  match d.commands.reverse with
  | [] => none
  | first :: rest => some (.mk first rest)

structure Draft.Alike (E : Cause → Cause → Prop) (d d' : Draft) : Prop where
  before : Option.Rel (Pipeline.Alike E) d.before? d'.before?
  operands : List.Forall₂ (Operand.Alike E) d.operands d'.operands

theorem Draft.Alike.refl (hE : ∀ c, E c c) (d : Draft) : d.Alike E d := by
  refine ⟨?_, List.forall₂_same.mpr fun _ _ => .same⟩
  cases d.before? with
  | none => exact .none
  | some p => exact .some (.refl hE p)

theorem Draft.Alike.push {d d' : Draft} (h : d.Alike E d') {o o' : Operand} (ho : o.Alike E o') :
    (d.push o).Alike E (d'.push o') := ⟨h.before, .cons ho h.operands⟩

theorem Draft.Alike.command? {d d' : Draft} (h : d.Alike E d') :
    Option.Rel (Command.Alike E) d.command? d'.command? := by
  have hos := List.rel_reverse h.operands
  unfold Draft.command?
  generalize d.operands.reverse = os, d'.operands.reverse = os' at hos
  cases hos with
  | nil => exact .none
  | cons ho hos => exact .some (.mk ho hos)

theorem Draft.pipeline?_eq_map (d : Draft) :
    d.pipeline? = d.command?.map fun c => (d.before?.map (·.snoc c)).getD (.mk c []) := by
  unfold Draft.pipeline? Draft.before?
  congr 1
  funext c
  cases d.commands.reverse <;> rfl

theorem Draft.Alike.pipeline? (hE : ∀ c, E c c) {d d' : Draft} (h : d.Alike E d') :
    Option.Rel (Pipeline.Alike E) d.pipeline? d'.pipeline? := by
  rw [Draft.pipeline?_eq_map, Draft.pipeline?_eq_map]
  have hc := h.command?
  generalize d.command? = c, d'.command? = c' at hc
  cases hc with
  | none => exact .none
  | some hc =>
    have hb := h.before
    refine .some ?_
    generalize d.before? = b, d'.before? = b' at hb
    cases hb with
    | none => exact hc.pipeline hE
    | some hb => exact hb.snoc hE hc

/-- A pipe makes a pipeline of what is read so far. -/
theorem Draft.before?_pipe {d : Draft} {c : Command} (h : d.command? = some c) :
    (Draft.mk (c :: d.commands) []).before? = d.pipeline? := by
  rw [Draft.pipeline?_eq_map, h]
  unfold Draft.before?
  rw [List.reverse_cons]
  cases d.commands.reverse <;> rfl

/-- Drafts that come to the same, and so do those that wait for a parenthesis to close. -/
structure Drafts.Alike (E : Cause → Cause → Prop) (s s' : Drafts) : Prop where
  inner : s.inner.Alike E s'.inner
  outer : List.Forall₂ (Draft.Alike E) s.outer s'.outer

theorem Drafts.Alike.push {s s' : Drafts} (h : s.Alike E s') {o o' : Operand} (ho : o.Alike E o') :
    (s.push o).Alike E (s'.push o') := ⟨h.inner.push ho, h.outer⟩

/-- Drafts whose pipelines, as far as they are read, come to the same. -/
structure Drafts.Complete (E : Cause → Cause → Prop) (s s' : Drafts) : Prop where
  pipeline? : Option.Rel (Pipeline.Alike E) s.inner.pipeline? s'.inner.pipeline?
  outer : List.Forall₂ (Draft.Alike E) s.outer s'.outer

theorem Drafts.Alike.complete (hE : ∀ c, E c c) {s s' : Drafts} (h : s.Alike E s') :
    s.Complete E s' := ⟨h.inner.pipeline? hE, h.outer⟩

/-- A pipe or a closing parenthesis takes what is read so far as a whole. -/
theorem Drafts.Complete.step {depth : Nat} {s s' s₁ s₁' : Drafts} {t t' : Placed}
    (h : s.Complete E s') (ht : t.item = t'.item) (hend : t.item = .pipe ∨ t.item = .rightParen)
    (hs : s.step depth t = .ok s₁) (hs' : s'.step depth t' = .ok s₁') : s₁.Alike E s₁' := by
  have hs' : s'.step depth t = .ok s₁' := Drafts.step_relocate ht.symm hs'
  obtain ⟨item, pos⟩ := t
  obtain ⟨hp, ho⟩ := h
  dsimp only at hend
  unfold Drafts.step at hs hs'
  obtain rfl | rfl := hend
  · dsimp only at hs hs'
    split at hs
    · next c hc =>
      split at hs'
      · next c' hc' =>
        cases hs
        cases hs'
        refine ⟨⟨?_, .nil⟩, ho⟩
        rwa [Draft.before?_pipe hc, Draft.before?_pipe hc']
      · cases hs'
    · cases hs
  · dsimp only at hs hs'
    generalize s.inner.pipeline? = p, s'.inner.pipeline? = p' at hp hs hs'
    generalize s.outer = outer, s'.outer = outer' at ho hs hs'
    cases hp with
    | none => cases hs
    | some hp =>
      cases ho with
      | nil => cases hs
      | cons hd hds =>
        cases hs
        cases hs'
        exact ⟨hd.push (.group hp), hds⟩

/-- One item keeps drafts alike. -/
theorem Drafts.Alike.step (hE : ∀ c, E c c) {depth : Nat} {s s' s₁ s₁' : Drafts} {t t' : Placed}
    (h : s.Alike E s') (ht : t.item = t'.item) (hs : s.step depth t = .ok s₁)
    (hs' : s'.step depth t' = .ok s₁') : s₁.Alike E s₁' := by
  have hs' : s'.step depth t = .ok s₁' := Drafts.step_relocate ht.symm hs'
  obtain ⟨item, pos⟩ := t
  cases item with
  | pipe => exact (h.complete hE).step rfl (.inl rfl) hs hs'
  | rightParen => exact (h.complete hE).step rfl (.inr rfl) hs hs'
  | field _ _ | dot | constant _ =>
    cases hs
    cases hs'
    exact h.push .same
  | word name =>
    unfold Drafts.step at hs hs'
    dsimp only at hs hs'
    generalize Builtin.ofName? name = f at hs hs'
    cases f with
    | none => cases hs
    | some f =>
      cases hs
      cases hs'
      exact h.push .same
  | leftParen =>
    unfold Drafts.step at hs hs'
    dsimp only at hs hs'
    split at hs
    · cases hs
    · split at hs'
      · cases hs'
      · cases hs
        cases hs'
        exact ⟨.refl hE _, .cons h.inner h.outer⟩

theorem Drafts.Alike.foldlM (hE : ∀ c, E c c) {depth : Nat} {s s' s₁ s₁' : Drafts}
    {xs ys : List Placed} (h : s.Alike E s') (he : SameItems xs ys)
    (hs : xs.foldlM (Drafts.step depth) s = .ok s₁)
    (hs' : ys.foldlM (Drafts.step depth) s' = .ok s₁') : s₁.Alike E s₁' := by
  induction xs generalizing ys s s' with
  | nil =>
    cases List.map_eq_nil_iff.mp he.symm
    cases hs
    cases hs'
    exact h
  | cons t xs ih =>
    obtain ⟨u, ys, rfl, hu, hxs⟩ := List.map_eq_cons_iff.mp he.symm
    obtain ⟨s₂, hstep, hrest⟩ := exists_of_foldlM_cons hs
    obtain ⟨s₂', hstep', hrest'⟩ := exists_of_foldlM_cons hs'
    exact ih (h.step hE hu.symm hstep hstep') hxs.symm hrest hrest'

/-!
A chain, or the nest in its place.
-/

/-- What can stand before a pipeline within a pipeline: nothing, or items up to an open
parenthesis. -/
def Opens (front : List Placed) : Prop := front = [] ∨ ∃ xs pos, front = xs ++ [⟨.leftParen, pos⟩]

/-- What can follow a pipeline within a pipeline. -/
def Closes (rest : List Placed) : Prop := ∀ t ∈ rest.head?, t.item = .pipe ∨ t.item = .rightParen

theorem Opens.inner_eq_empty {depth : Nat} {front : List Placed} {s : Drafts} (h : Opens front)
    (hs : front.foldlM (Drafts.step depth) .start = .ok s) : s.inner = .empty := by
  obtain rfl | ⟨xs, pos, rfl⟩ := h
  · cases hs
    rfl
  · obtain ⟨s₁, _, hopen⟩ := exists_of_foldlM_append hs
    obtain ⟨s₂, hopen, ⟨⟩⟩ := exists_of_foldlM_cons hopen
    unfold Drafts.step at hopen
    dsimp only at hopen
    split at hopen
    · cases hopen
    · cases hopen
      rfl

/-- A pipeline with a chain in it, and the same with the nest in its place, come to the same. -/
theorem Nests.pipeline_alike {d : Nat} {front front' xs ys rest rest' : List Placed}
    {p q : Pipeline} (h : Nests xs ys) (ho : Opens front) (hf : SameItems front front')
    (hc : Closes rest) (hr : SameItems rest rest') (hp : IsPipeline d (front ++ (xs ++ rest)) p)
    (hq : IsPipeline d (front' ++ (ys ++ rest')) q) : p.Alike AnyCause q := by
  have hE (c : Cause) : AnyCause c c := trivial
  obtain ⟨s, hs, -, hsp⟩ := @IsPipeline.read d d _ _ hp .start rfl rfl
  obtain ⟨s', hs', -, hsq⟩ := @IsPipeline.read d d _ _ hq .start rfl rfl
  obtain ⟨s₁, hfront, hs⟩ := exists_of_foldlM_append hs
  obtain ⟨s₁', hfront', hs'⟩ := exists_of_foldlM_append hs'
  -- Up to the chain both are read alike, positions apart.
  cases (hf.foldlM hfront).symm.trans hfront'
  have hempty := ho.inner_eq_empty hfront
  obtain ⟨s₂, hchain, hrest⟩ := exists_of_foldlM_append hs
  obtain ⟨s₂', hnest, hrest'⟩ := exists_of_foldlM_append hs'
  obtain ⟨p', q', halike, hx, hy⟩ := h.reads
  obtain ⟨ho₂, hp₂⟩ := hx d s₁ s₂ hempty hchain
  obtain ⟨ho₂', hq₂⟩ := hy d s₁ s₂' hempty hnest
  have hcomplete : s₂.Complete AnyCause s₂' := by
    refine ⟨?_, ?_⟩
    · rw [hp₂, hq₂]
      exact .some halike
    · rw [ho₂, ho₂']
      exact List.forall₂_same.mpr fun _ _ => .refl hE _
  have hend : s.Complete AnyCause s' := by
    cases rest with
    | nil =>
      cases List.map_eq_nil_iff.mp hr.symm
      cases hrest
      cases hrest'
      exact hcomplete
    | cons t rest =>
      obtain ⟨u, rest', rfl, hu, htail⟩ := List.map_eq_cons_iff.mp hr.symm
      obtain ⟨s₃, hstep, hrest⟩ := exists_of_foldlM_cons hrest
      obtain ⟨s₃', hstep', hrest'⟩ := exists_of_foldlM_cons hrest'
      have halike₃ := hcomplete.step hu.symm (hc t rfl) hstep hstep'
      exact (halike₃.foldlM hE htail.symm hrest hrest').complete hE
  have hpq := hend.pipeline?
  rw [hsp, hsq] at hpq
  cases hpq with
  | some hpq => exact hpq

/-!
Actions and whole sources.
-/

/-- The items of an action in front of a place where a pipeline can stand. -/
inductive BeforeValue : List Placed → Prop
  | opens {front} : Opens front → BeforeValue front
  | keyword {k pos} : BeforeValue [⟨.word (Keyword.name k), pos⟩]
  | otherwise {k elsePos pos} :
      BeforeValue [⟨.word "else", elsePos⟩, ⟨.word (Keyword.name k), pos⟩]

/-- The items of an action with a chain in one place of it, and with the nest there, at any
positions. -/
inductive Respelt : List Placed → List Placed → Prop
  | mk {front front' xs ys rest rest'} : BeforeValue front → SameItems front front' → Nests xs ys →
      Closes rest → SameItems rest rest' →
      Respelt (front ++ (xs ++ rest)) (front' ++ (ys ++ rest'))

theorem ofName?_keyword (k : Keyword) : Builtin.ofName? k.name = none := by cases k <;> rfl

theorem SameItems.opens {front front' : List Placed} (h : SameItems front front')
    (ho : Opens front) : Opens front' := by
  obtain rfl | ⟨xs, pos, rfl⟩ := ho
  · exact .inl (List.map_eq_nil_iff.mp h.symm)
  · unfold SameItems at h
    rw [List.map_append] at h
    obtain ⟨xs', _, rfl, -, hlast⟩ := List.map_eq_append_iff.mp h.symm
    obtain ⟨⟨_, pos'⟩, _, rfl, ⟨⟩, htail⟩ := List.map_eq_cons_iff.mp hlast
    cases List.map_eq_nil_iff.mp htail
    exact .inr ⟨xs', pos', rfl⟩

theorem SameItems.beforeValue {front front' : List Placed} (h : SameItems front front')
    (hb : BeforeValue front) : BeforeValue front' := by
  cases hb with
  | opens ho => exact .opens (h.opens ho)
  | keyword =>
    obtain ⟨pos', rest, rfl, hrest⟩ := SameItems.exists_word h
    cases List.map_eq_nil_iff.mp hrest.symm
    exact .keyword
  | otherwise =>
    obtain ⟨elsePos', rest, rfl, hrest⟩ := SameItems.exists_word h
    obtain ⟨pos', rest, rfl, hlast⟩ := SameItems.exists_word hrest
    cases List.map_eq_nil_iff.mp hlast.symm
    exact .otherwise

/-- A word in front that is no function stands before the pipeline. -/
theorem BeforeValue.exists_of_word {front xs items : List Placed} {w : String} {pos : Nat}
    (h : BeforeValue front) (hx : BeginsValue xs) (hw : Builtin.ofName? w = none)
    (he : front ++ xs = ⟨.word w, pos⟩ :: items) :
    ∃ front', front = ⟨.word w, pos⟩ :: front' ∧ BeforeValue front' ∧ items = front' ++ xs := by
  cases h with
  | opens ho =>
    obtain rfl | ⟨zs, parenPos, rfl⟩ := ho
    · obtain ⟨t, r, rfl, ht⟩ := hx
      cases he
      obtain ⟨f, hf⟩ := ht w rfl
      rw [hw] at hf
      cases hf
    · cases zs with
      | nil => cases he
      | cons z zs =>
        cases he
        exact ⟨_, rfl, .opens (.inr ⟨zs, parenPos, rfl⟩), rfl⟩
  | keyword =>
    cases he
    exact ⟨[], rfl, .opens (.inl rfl), rfl⟩
  | otherwise =>
    cases he
    exact ⟨_, rfl, .keyword, rfl⟩

namespace Respelt

variable {xs ys : List Placed} {w : String} {pos : Nat}

theorem ne_nil (h : Respelt xs ys) : xs ≠ [] := by
  obtain ⟨-, -, hn, -, -⟩ := h
  obtain ⟨t, r, rfl, -⟩ := hn.beginsValue.1
  simp

/-- A word in front of the chain is in front of the nest too. -/
theorem tail (h : Respelt (⟨.word w, pos⟩ :: xs) ys) (hw : Builtin.ofName? w = none) :
    ∃ pos' ys', ys = ⟨.word w, pos'⟩ :: ys' ∧ Respelt xs ys' := by
  generalize he : (⟨.word w, pos⟩ :: xs : List Placed) = items at h
  obtain ⟨hb, hf, hn, hc, hr⟩ := h
  obtain ⟨front, rfl, hbefore, rfl⟩ := hb.exists_of_word (hn.beginsValue.1.append _) hw he.symm
  obtain ⟨pos', front', rfl, hfront⟩ := SameItems.exists_word hf
  exact ⟨pos', _, rfl, .mk hbefore hfront hn hc hr⟩

/-- A word in front of the nest is in front of the chain too. -/
theorem exists_word (h : Respelt xs (⟨.word w, pos⟩ :: ys)) (hw : Builtin.ofName? w = none) :
    ∃ pos' xs', xs = ⟨.word w, pos'⟩ :: xs' := by
  generalize he : (⟨.word w, pos⟩ :: ys : List Placed) = items at h
  obtain ⟨hb, hf, hn, -, -⟩ := h
  obtain ⟨front, rfl, -, -⟩ :=
    (hf.beforeValue hb).exists_of_word (hn.beginsValue.2.append _) hw he.symm
  obtain ⟨pos', front', rfl, -⟩ := SameItems.exists_word hf.symm
  exact ⟨pos', _, rfl⟩

theorem pipeline_alike {d : Nat} {p q : Pipeline} (h : Respelt xs ys) (hp : IsPipeline d xs p)
    (hq : IsPipeline d ys q) : p.Alike AnyCause q := by
  obtain ⟨hb, hf, hn, hc, hr⟩ := h
  cases hb with
  | opens ho => exact hn.pipeline_alike ho hf hc hr hp hq
  | @keyword k _ =>
    obtain ⟨f, hf⟩ := hp.head_word
    rw [ofName?_keyword] at hf
    cases hf
  | otherwise =>
    obtain ⟨f, ⟨⟩⟩ := hp.head_word

variable {source source' : List Char} {g g' g₁ g₁' : Growth} {a b : Action}

theorem action_grows (h : g.Alike AnyCause g') (hi : Respelt a.items b.items) {p : Pipeline}
    (hp : IsPipeline g.frames.length a.items p) (hg' : Grows source' g' (.action b) g₁') :
    (g.push (.action ⟨a.pos, Growth.excerpt source a.pos a.stop⟩ p)).Alike AnyCause g₁' := by
  -- An action of a block begins with a word, and `a`, which would begin with it too, does not.
  have hword {w : String} {pos : Nat} {items : List Placed} (hw : Builtin.ofName? w = none) :
      b.items ≠ ⟨.word w, pos⟩ :: items := by
    intro hb
    rw [hb] at hi
    obtain ⟨pos', xs', ha⟩ := hi.exists_word hw
    rw [ha] at hp
    obtain ⟨f, hf⟩ := hp.head_word
    rw [hw] at hf
    cases hf
  cases hg' with
  | action hq =>
    rw [h.length] at hq
    exact h.push (.action (hi.pipeline_alike hp hq))
  | block => exact absurd rfl (hword (ofName?_keyword _))
  | finish => exact absurd rfl (hword rfl)
  | otherwise => exact absurd rfl (hword rfl)
  | chain => exact absurd rfl (hword rfl)

/-- What an action does to a tree, it does alike with the nest in place of the chain. -/
theorem grows (h : g.Alike AnyCause g') (hi : Respelt a.items b.items)
    (hg : Grows source g (.action a) g₁) (hg' : Grows source' g' (.action b) g₁') :
    g₁.Alike AnyCause g₁' := by
  cases hg with
  | action hp => exact action_grows h hi hp hg'
  | @block k _ _ _ _ _ p hlt hp =>
    obtain ⟨pos, items, close, stop⟩ := b
    obtain ⟨wordPos, items, rfl, hitems⟩ := tail hi (ofName?_keyword k)
    have hstep := Growth.step_of_grows hg'
    rw [Growth.step_keyword] at hstep
    obtain ⟨-, q, hq, rfl⟩ := Growth.openBlock_eq_ok_iff.mp hstep
    rw [h.length] at hq
    exact ⟨.nil, .cons ⟨rfl, hitems.pipeline_alike hp hq, rfl, h.nodes, .none⟩ h.frames⟩
  | finish =>
    obtain ⟨_, _, -, hi⟩ := tail hi rfl
    exact absurd rfl hi.ne_nil
  | otherwise =>
    obtain ⟨_, _, -, hi⟩ := tail hi rfl
    exact absurd rfl hi.ne_nil
  | @chain f frames _ _ _ _ _ _ p hf hb hk hlt hp =>
    obtain ⟨pos, items, close, stop⟩ := b
    obtain ⟨elsePos, items, rfl, hitems⟩ := tail hi rfl
    obtain ⟨wordPos, items, rfl, hcondition⟩ := tail hitems (ofName?_keyword f.keyword)
    obtain ⟨f', frames', hff, hfs, hf'⟩ := h.exists_frame hf
    rw [hff.keyword] at hk
    have hstep : Growth.readElse source' g' elsePos _ close stop = .ok g₁' :=
      Growth.step_of_grows hg'
    rw [Growth.readElse, hf'] at hstep
    dsimp only at hstep
    rw [hff.body?_eq_none hb, hff.keyword, Growth.continuation?_eq_some_iff.mpr ⟨hk, rfl⟩] at hstep
    obtain ⟨-, q, hq, rfl⟩ := Growth.openBlock_eq_ok_iff.mp hstep
    have hlength : frames'.length = frames.length := hfs.length_eq.symm
    have hq : IsPipeline (frames.length + 2) items q := by
      rw [← hlength]
      exact hq
    refine ⟨.nil, .cons ⟨hff.keyword, hcondition.pipeline_alike hp hq, rfl, .nil, .none⟩ ?_⟩
    exact .cons (hff.otherwise h.nodes.reverse) hfs

end Respelt

/-- A piece that stays the same, or an action with a nest of calls in place of a chain. -/
inductive Piece.Respelt : Piece → Piece → Prop
  | same {x y} : x.Same y → Piece.Respelt x y
  | action {a b} : Template.Respelt a.items b.items → Piece.Respelt (.action a) (.action b)

theorem Growth.Alike.foldlM_respelt {source source' : List Char} {g g' g₁ g₁' : Growth}
    {ps ps' : List Piece} (h : g.Alike AnyCause g') (hp : List.Forall₂ Piece.Respelt ps ps')
    (hg : ps.foldlM (Growth.step source) g = .ok g₁)
    (hg' : ps'.foldlM (Growth.step source') g' = .ok g₁') : g₁.Alike AnyCause g₁' := by
  induction hp generalizing g g' with
  | nil =>
    cases hg
    cases hg'
    exact h
  | cons hx _ ih =>
    obtain ⟨g₂, hstep, hrest⟩ := exists_of_foldlM_cons hg
    obtain ⟨g₂', hstep', hrest'⟩ := exists_of_foldlM_cons hg'
    refine ih ?_ hrest hrest'
    cases hx with
    | same hx =>
      obtain ⟨g₃, hg₃, halike⟩ := h.grows (fun _ => trivial) hx (Growth.grows_of_step hstep)
      cases hstep'.symm.trans (Growth.step_of_grows hg₃)
      exact halike
    | action hi => exact hi.grows h (Growth.grows_of_step hstep) (Growth.grows_of_step hstep')

theorem foldlM_of_compile {name s : String} {t : Template} {ps : List Piece}
    (h : compile name s = .ok t) (hp : pieces s.toList = .ok ps) :
    t.name = name ∧
      ps.foldlM (Growth.step s.toList) .start = .ok ⟨t.nodes.reverse, []⟩ := by
  obtain ⟨ns, hns, rfl⟩ := map_eq_ok h
  obtain ⟨qs, hqs, htree⟩ := readNodes_eq_ok_iff.mp hns
  cases (pieces_eq_ok_iff.mpr hqs).symm.trans hp
  obtain ⟨rs, hrs, hread⟩ := htree.read
  cases tokens_injective hrs
  refine ⟨rfl, (hread .start rfl).trans ?_⟩
  rw [show Growth.start.nodes = [] from rfl, List.append_nil]
  rfl

/-- Piping is passing the last argument. A chain of calls and the nest of the same calls have the
same value, or both none; so have the two spellings, where both are read; and two templates that
differ in nothing but that do the same with all data. -/
theorem pipe_passes_last_argument :
    (∀ (p : Pipeline) (calls : Calls) (root dot : Value),
      ((p.pipes calls).value root dot).toOption = ((p.nests calls).value root dot).toOption) ∧
    (∀ (xs ys : List Placed) (d close close' : Nat) (p q : Pipeline), Nests xs ys →
      readPipeline d close xs = .ok p → readPipeline d close' ys = .ok q →
      ∀ root dot, (p.value root dot).toOption = (q.value root dot).toOption) ∧
    ∀ (name s s' : String) (ps ps' : List Piece) (t t' : Template), pieces s.toList = .ok ps →
      pieces s'.toList = .ok ps' → List.Forall₂ Piece.Respelt ps ps' → compile name s = .ok t →
      compile name s' = .ok t' → SameOutput AnyCause t t' := by
  have hE (c : Cause) : AnyCause c c := trivial
  refine ⟨fun p calls root dot => ?_, ?_, ?_⟩
  · exact agrees_anyCause_iff.mp (Pipeline.Alike.pipes_nests (.refl hE p) calls root dot)
  · intro xs ys d close close' p q hn hp hq root dot
    have hp : IsPipeline d ([] ++ (xs ++ [])) p := by
      simpa using isPipeline_of_readPipeline hp
    have hq : IsPipeline d ([] ++ (ys ++ [])) q := by
      simpa using isPipeline_of_readPipeline hq
    exact agrees_anyCause_iff.mp
      (hn.pipeline_alike (.inl rfl) rfl (by rintro t ⟨⟩) rfl hp hq root dot)
  · intro name s s' ps ps' t t' hps hps' hrespelt ht ht'
    obtain ⟨hname, hg⟩ := foldlM_of_compile ht hps
    obtain ⟨hname', hg'⟩ := foldlM_of_compile ht' hps'
    have halike := Growth.Alike.foldlM_respelt ⟨.nil, .nil⟩ hrespelt hg hg'
    refine sameOutput_of_alikeNodes hE (hname.trans hname'.symm) ?_
    simpa using halike.nodes.reverse

/-- A condition of two calls, in both spellings. -/
theorem pipe_passes_last_argument_condition : ∃ t t',
    compile "t" "\x7b\x7bif .A | print \"x\" | not\x7d\x7dn\x7b\x7bend\x7d\x7d" = .ok t ∧
    compile "t" "\x7b\x7bif not (print \"x\" (.A))\x7d\x7dn\x7b\x7bend\x7d\x7d" = .ok t' ∧
    SameOutput AnyCause t t' := by
  have ht : compile "t" "\x7b\x7bif .A | print \"x\" | not\x7d\x7dn\x7b\x7bend\x7d\x7d" =
      .ok ⟨"t", "\x7b\x7bif .A | print \"x\" | not\x7d\x7dn\x7b\x7bend\x7d\x7d",
        [.block .cond ⟨0, "\x7b\x7bif .A | print \"x\" | not\x7d\x7d".toList⟩
          (.mk (.mk (.field false ["A"]) [])
            [.mk (.function .print) [.constant (.text "x")], .mk (.function .not) []])
          [.text ['n']] []]⟩ := by
    with_unfolding_all rfl
  have ht' : compile "t" "\x7b\x7bif not (print \"x\" (.A))\x7d\x7dn\x7b\x7bend\x7d\x7d" =
      .ok ⟨"t", "\x7b\x7bif not (print \"x\" (.A))\x7d\x7dn\x7b\x7bend\x7d\x7d",
        [.block .cond ⟨0, "\x7b\x7bif not (print \"x\" (.A))\x7d\x7d".toList⟩
          (.mk (.mk (.function .not) [.group (.mk (.mk (.function .print)
            [.constant (.text "x"), .group (.mk (.mk (.field false ["A"]) []) [])]) [])]) [])
          [.text ['n']] []]⟩ := by
    with_unfolding_all rfl
  have hps : pieces "\x7b\x7bif .A | print \"x\" | not\x7d\x7dn\x7b\x7bend\x7d\x7d".toList =
      .ok [.action ⟨0, [⟨.word "if", 2⟩, ⟨.field false ["A"], 5⟩, ⟨.pipe, 8⟩, ⟨.word "print", 10⟩,
          ⟨.constant (.text "x"), 16⟩, ⟨.pipe, 20⟩, ⟨.word "not", 22⟩], 25, 27⟩,
        .text 27 ['n'], .action ⟨28, [⟨.word "end", 30⟩], 33, 35⟩] := by
    with_unfolding_all rfl
  have hps' : pieces "\x7b\x7bif not (print \"x\" (.A))\x7d\x7dn\x7b\x7bend\x7d\x7d".toList =
      .ok [.action ⟨0, [⟨.word "if", 2⟩, ⟨.word "not", 5⟩, ⟨.leftParen, 9⟩, ⟨.word "print", 10⟩,
          ⟨.constant (.text "x"), 16⟩, ⟨.leftParen, 20⟩, ⟨.field false ["A"], 21⟩,
          ⟨.rightParen, 23⟩, ⟨.rightParen, 24⟩], 25, 27⟩,
        .text 27 ['n'], .action ⟨28, [⟨.word "end", 30⟩], 33, 35⟩] := by
    with_unfolding_all rfl
  refine ⟨_, _, ht, ht', pipe_passes_last_argument.2.2 "t" _ _ _ _ _ _ hps hps' ?_ ht ht'⟩
  refine .cons (.action ?_) (.cons (.same .text) (.cons (.same (.action rfl)) .nil))
  have hfield : Nests [⟨.field false ["A"], 5⟩] [⟨.field false ["A"], 21⟩] :=
    .pipeline (.one (.one (.field (d := 0)))) rfl
  have hargument : IsArguments [⟨.constant (.text "x"), 16⟩] [.constant (.text "x")] :=
    .more .nil (.constant (d := 0))
  have hprint := @Nests.call _ _ _ _ _ .print 8 10 10 20 23 hfield hargument rfl
  have hnot := @Nests.call _ _ _ _ _ .not 20 22 5 9 24 hprint .nil rfl
  exact @Respelt.mk [⟨.word "if", 2⟩] [⟨.word "if", 2⟩] _ _ [] [] (@BeforeValue.keyword .cond 2) rfl
    hnot (by rintro t ⟨⟩) rfl

end AlertRelay.Template
