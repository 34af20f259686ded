import AlertRelay.Proofs.Value.Agreement
import AlertRelay.Template.Basic

/-!
Trees that come to the same, wherever their actions stand. Pipelines that have the same value, or
both none, may stand for each other: what is written stays the same, and so does whether the run
fails. A relation says how far the causes of a failure may differ.
-/

namespace AlertRelay.Template

variable {E : Cause → Cause → Prop}

/-- Two pipelines with the same value, or both without one. -/
def Pipeline.Alike (E : Cause → Cause → Prop) (p q : Pipeline) : Prop :=
  ∀ root dot, Agrees E Eq (p.value root dot) (q.value root dot)

theorem Pipeline.Alike.refl (hE : ∀ c, E c c) (p : Pipeline) : p.Alike E p := by
  intro root dot
  cases p.value root dot with
  | ok v => exact .ok rfl
  | error c => exact .error (hE c)

mutual

/-- Two nodes of the same shape, with pipelines that may stand for each other. -/
inductive Node.Alike (E : Cause → Cause → Prop) : Node → Node → Prop
  | text {content} : Node.Alike E (.text content) (.text content)
  | action {s s' p p'} : p.Alike E p' → Node.Alike E (.action s p) (.action s' p')
  | block {k s s' p p' body body' otherwise otherwise'} : p.Alike E p' → AlikeNodes E body body' →
      AlikeNodes E otherwise otherwise' →
      Node.Alike E (.block k s p body otherwise) (.block k s' p' body' otherwise')

inductive AlikeNodes (E : Cause → Cause → Prop) : List Node → List Node → Prop
  | nil : AlikeNodes E [] []
  | cons {n n' ns ns'} : n.Alike E n' → AlikeNodes E ns ns' → AlikeNodes E (n :: ns) (n' :: ns')

end

theorem AlikeNodes.append {ns ns' ms ms' : List Node} (h : AlikeNodes E ns ns')
    (hm : AlikeNodes E ms ms') : AlikeNodes E (ns ++ ms) (ns' ++ ms') :=
  match h with
  | .nil => hm
  | .cons hn hns => .cons hn (hns.append hm)

theorem AlikeNodes.reverse {ns ns' : List Node} (h : AlikeNodes E ns ns') :
    AlikeNodes E ns.reverse ns'.reverse :=
  match h with
  | .nil => .nil
  | .cons hn hns => by
    rw [List.reverse_cons, List.reverse_cons]
    exact hns.reverse.append (.cons hn .nil)

/-!
Runs.
-/

inductive Fault.Alike (E : Cause → Cause → Prop) : Fault → Fault → Prop
  | at {s s' c c'} : E c c' → Fault.Alike E (.at s c) (.at s' c')
  | limit {e} : Fault.Alike E (.limit e) (.limit e)

/-- Two runs that write the same, and end well or for causes that go together. -/
structure Run.Alike (E : Cause → Cause → Prop) (r r' : Run) : Prop where
  text : r.text = r'.text
  fault : Option.Rel (Fault.Alike E) r.fault r'.fault

theorem Run.Alike.write (s : String) : (Run.write s).Alike E (.write s) := ⟨rfl, .none⟩

theorem Run.Alike.fail {f f' : Fault} (h : f.Alike E f') : (Run.fail f).Alike E (.fail f') :=
  ⟨rfl, .some h⟩

theorem Run.Alike.append {r r' s s' : Run} (h : r.Alike E r') (hs : s.Alike E s') :
    (r.append s).Alike E (r'.append s') := by
  obtain ⟨text, fault⟩ := r
  obtain ⟨text', fault'⟩ := r'
  obtain ⟨htext, hfault⟩ := h
  cases htext
  cases hfault with
  | some hf => exact ⟨rfl, .some hf⟩
  | none => exact ⟨congrArg (text ++ ·) hs.text, hs.fault⟩

theorem Run.Alike.concat {f g : Value → Run} (h : ∀ v, (f v).Alike E (g v)) (vs : List Value) :
    (Run.concat (vs.map f)).Alike E (.concat (vs.map g)) := by
  induction vs with
  | nil => exact .write ""
  | cons v vs ih => exact (h v).append ih

theorem Run.Alike.withValue {s s' : Site} {x y : Except Cause Value} (h : Agrees E Eq x y)
    {next next' : Value → Run} (hn : ∀ v, (next v).Alike E (next' v)) :
    (withValue s x next).Alike E (withValue s' y next') := by
  cases h with
  | ok hv =>
    cases hv
    exact hn _
  | error he => exact .fail (.at he)

/-- Where a block stands tells only in what it reports. -/
theorem elements_alike (hE : ∀ c, E c c) (s s' : Site) (v : Value) :
    Agrees (Fault.Alike E) Eq (elements s v) (elements s' v) := by
  unfold elements
  split
  · exact .ok rfl
  · exact .ok rfl
  · exact .ok rfl
  · exact .ok rfl
  · exact .ok rfl
  · split
    · exact .error (.at (hE _))
    · exact .error .limit

theorem writeValue_alike (v : Value) : (writeValue v).Alike E (writeValue v) := by
  unfold writeValue
  split
  · exact .write _
  · exact .fail .limit

mutual

theorem Node.Alike.run (hE : ∀ c, E c c) {n n' : Node} (h : n.Alike E n') (root dot : Value) :
    (n.run root dot).Alike E (n'.run root dot) :=
  match h with
  | .text => .write _
  | .action hp => .withValue (hp root dot) writeValue_alike
  | @Node.Alike.block _ k s s' p p' body body' otherwise otherwise' hp hb ho => by
    refine .withValue (hp root dot) fun v => ?_
    have hbody (w : Value) := hb.run hE root w
    have hotherwise := ho.run hE root dot
    cases k with
    | cond | «with» =>
      dsimp only
      split
      · exact hbody _
      · exact hotherwise
    | range =>
      dsimp only
      have hsteps := elements_alike hE s s' v
      generalize elements s v = x, elements s' v = y at hsteps
      cases hsteps with
      | error hf => exact .fail hf
      | @ok vs _ hvs =>
        cases hvs
        cases vs with
        | nil => exact hotherwise
        | cons w vs => exact .concat hbody (w :: vs)

theorem AlikeNodes.run (hE : ∀ c, E c c) {ns ns' : List Node} (h : AlikeNodes E ns ns')
    (root dot : Value) : (runNodes root dot ns).Alike E (runNodes root dot ns') :=
  match h with
  | .nil => .write ""
  | .cons hn hns => (hn.run hE root dot).append (hns.run hE root dot)

end

/-!
Failures.
-/

/-- Two failures of one template for causes that go together. -/
inductive Failure.Alike (E : Cause → Cause → Prop) : Failure → Failure → Prop
  | exec {e e'} : e.name = e'.name → E e.cause e'.cause → Failure.Alike E (.exec e) (.exec e')
  | limit {e} : Failure.Alike E (.limit e) (.limit e)

/-- Templates that do the same with all data. -/
def SameOutput (E : Cause → Cause → Prop) (t t' : Template) : Prop :=
  ∀ data buffer, (t.execute data buffer).1 = (t'.execute data buffer).1 ∧
    Option.Rel (Failure.Alike E) (t.execute data buffer).2 (t'.execute data buffer).2

theorem sameOutput_of_alikeNodes (hE : ∀ c, E c c) {t t' : Template} (hname : t.name = t'.name)
    (h : AlikeNodes E t.nodes t'.nodes) : SameOutput E t t' := by
  intro data buffer
  obtain ⟨htext, hfault⟩ := h.run hE data data
  refine ⟨congrArg (buffer ++ ·) htext, ?_⟩
  unfold execute Template.run
  dsimp only
  generalize (runNodes data data t.nodes).fault = f, (runNodes data data t'.nodes).fault = f'
    at hfault
  cases hfault with
  | none => exact .none
  | some hf =>
    refine .some ?_
    cases hf with
    | «at» hc => exact .exec hname hc
    | limit => exact .limit

end AlertRelay.Template
