import AlertRelay.Proofs.Template.Grammar
import AlertRelay.Proofs.Template.PieceReading
import AlertRelay.Template.Run

/-!
Where a run can fail, and why: at an action or a block of its tree, over the pipeline that stands
there, and so within the source that the tree was read from.
-/

namespace AlertRelay.Template

mutual

/-- The places of the actions and blocks of a tree. -/
def Node.sites : Node → List Site
  | .text _ => []
  | .action site _ => [site]
  | .block _ site _ body otherwise => site :: (sitesOf body ++ sitesOf otherwise)

def sitesOf : List Node → List Site
  | [] => []
  | n :: rest => n.sites ++ sitesOf rest

end

/-- A run that, if it fails at a place, does so at one of these. -/
def Run.FailsIn (sites : List Site) (r : Run) : Prop :=
  ∀ site cause, r.fault = some (.at site cause) → site ∈ sites

/-- The pipeline of an action, or of the condition of a block, with its place. -/
structure Station where
  keyword : Option Keyword
  site : Site
  pipeline : Pipeline

mutual

def Node.stations : Node → List Station
  | .text _ => []
  | .action site p => [⟨none, site, p⟩]
  | .block keyword site p body otherwise =>
    ⟨some keyword, site, p⟩ :: (stationsOf body ++ stationsOf otherwise)

def stationsOf : List Node → List Station
  | [] => []
  | n :: rest => n.stations ++ stationsOf rest

end

/-- Why a run can fail at a station: its pipeline has no value for some current value, or a block
cannot be repeated for the value that it has. -/
inductive Station.Fails (root : Value) (s : Station) : Cause → Prop
  | pipeline {dot cause} : s.pipeline.value root dot = .error cause → Fails root s cause
  | elements {dot v text} : s.keyword = some .range → s.pipeline.value root dot = .ok v →
      elements s.site v = .error (.at s.site (.notIterable text)) →
      Fails root s (.notIterable text)

namespace Run

theorem fault_append {a b : Run} {f : Fault} (h : (a.append b).fault = some f) :
    a.fault = some f ∨ b.fault = some f := by
  obtain ⟨text, fault⟩ := a
  cases fault with
  | some g => exact .inl h
  | none => exact .inr h

theorem fault_concat {rs : List Run} {f : Fault} (h : (concat rs).fault = some f) :
    ∃ r ∈ rs, r.fault = some f := by
  induction rs with
  | nil => cases h
  | cons r rs ih =>
    rcases fault_append h with h | h
    · exact ⟨r, List.mem_cons_self, h⟩
    · obtain ⟨r', hr', hf⟩ := ih h
      exact ⟨r', List.mem_cons_of_mem r hr', hf⟩

end Run

/-- A fault at a place comes from one of the stations. -/
def ComesFrom (root : Value) (ss : List Station) (site : Site) (cause : Cause) : Prop :=
  ∃ s ∈ ss, s.site = site ∧ s.Fails root cause

theorem ComesFrom.mono {root : Value} {ss ss' : List Station} {site : Site} {cause : Cause}
    (h : ComesFrom root ss site cause) (hs : ∀ s ∈ ss, s ∈ ss') :
    ComesFrom root ss' site cause := by
  obtain ⟨s, hmem, hfails⟩ := h
  exact ⟨s, hs s hmem, hfails⟩

theorem elements_fault {site : Site} {v : Value} {f : Fault} (h : elements site v = .error f) :
    (∃ text, f = .at site (.notIterable text)) ∨ ∃ e, f = .limit e := by
  unfold elements at h
  split at h
  · cases h
  · cases h
  · cases h
  · cases h
  · cases h
  · split at h
    · next text _ =>
      cases h
      exact .inl ⟨text, rfl⟩
    · next e _ =>
      cases h
      exact .inr ⟨e, rfl⟩

theorem writeValue_fault_ne {v : Value} {site : Site} {cause : Cause} :
    (writeValue v).fault ≠ some (.at site cause) := by
  intro hf
  unfold writeValue at hf
  cases hp : v.print with
  | ok s =>
    rw [hp] at hf
    cases hf
  | error e =>
    rw [hp] at hf
    cases hf

section Running

variable {root : Value} {site : Site} {cause : Cause}

mutual

theorem Node.comesFrom (dot : Value) (n : Node)
    (h : (n.run root dot).fault = some (.at site cause)) :
    ComesFrom root n.stations site cause :=
  match n with
  | .text _ => nomatch h
  | .action site' p => by
    rw [Node.run] at h
    cases hp : p.value root dot with
    | error cause' =>
      rw [hp] at h
      cases h
      exact ⟨⟨none, site, p⟩, List.mem_singleton_self _, rfl, .pipeline hp⟩
    | ok v =>
      rw [hp] at h
      exact absurd h writeValue_fault_ne
  | .block keyword site' p body otherwise => by
    rw [Node.run] at h
    cases hp : p.value root dot with
    | error cause' =>
      rw [hp] at h
      cases h
      exact ⟨⟨some keyword, site, p⟩, List.mem_cons_self, rfl, .pipeline hp⟩
    | ok v =>
      rw [hp] at h
      have hbody (dot : Value) (h : (runNodes root dot body).fault = some (.at site cause)) :
          ComesFrom root (Node.block keyword site' p body otherwise).stations site cause :=
        (comesFrom_runNodes dot body h).mono (by simp +contextual [Node.stations])
      have hotherwise (h : (runNodes root dot otherwise).fault = some (.at site cause)) :
          ComesFrom root (Node.block keyword site' p body otherwise).stations site cause :=
        (comesFrom_runNodes dot otherwise h).mono (by simp +contextual [Node.stations])
      unfold withValue at h
      cases keyword with
      | cond =>
        dsimp only at h
        split at h
        · exact hbody dot h
        · exact hotherwise h
      | «with» =>
        dsimp only at h
        split at h
        · exact hbody v h
        · exact hotherwise h
      | range =>
        dsimp only at h
        split at h
        · next f hf =>
          cases h
          rcases elements_fault hf with ⟨text, he⟩ | ⟨e, he⟩
          · cases he
            exact ⟨⟨some .range, site, p⟩, List.mem_cons_self, rfl, .elements rfl hp hf⟩
          · cases he
        · exact hotherwise h
        · obtain ⟨r, hr, hf⟩ := Run.fault_concat h
          obtain ⟨w, -, rfl⟩ := List.mem_map.mp hr
          exact hbody w hf

theorem comesFrom_runNodes (dot : Value) (ns : List Node)
    (h : (runNodes root dot ns).fault = some (.at site cause)) :
    ComesFrom root (stationsOf ns) site cause :=
  match ns with
  | [] => nomatch h
  | n :: rest => by
    rcases Run.fault_append h with h | h
    · exact (n.comesFrom dot h).mono fun s hs => List.mem_append_left _ hs
    · exact (comesFrom_runNodes dot rest h).mono fun s hs => List.mem_append_right _ hs

end

end Running

mutual

theorem Node.map_site_stations (n : Node) : n.stations.map Station.site = n.sites :=
  match n with
  | .text _ => rfl
  | .action _ _ => rfl
  | .block _ _ _ body otherwise => by
    rw [Node.stations, Node.sites, List.map_cons, List.map_append, map_site_stationsOf body,
      map_site_stationsOf otherwise]

theorem map_site_stationsOf (ns : List Node) : (stationsOf ns).map Station.site = sitesOf ns :=
  match ns with
  | [] => rfl
  | n :: rest => by
    rw [stationsOf, sitesOf, List.map_append, n.map_site_stations, map_site_stationsOf rest]

end

theorem failsIn_runNodes (root dot : Value) (ns : List Node) :
    (runNodes root dot ns).FailsIn (sitesOf ns) := by
  intro site cause hf
  obtain ⟨s, hs, rfl, -⟩ := comesFrom_runNodes dot ns hf
  rw [← map_site_stationsOf]
  exact List.mem_map_of_mem hs

/-!
The places lie within the source.
-/

/-- A token that neither stands nor ends behind a position. -/
def Token.Within (n : Nat) : Token → Prop
  | .text pos _ => pos ≤ n
  | .opening pos => pos ≤ n
  | .item t => t.pos ≤ n
  | .closing pos stop => pos ≤ n ∧ stop ≤ n

theorem Token.Within.mono {m n : Nat} {t : Token} (h : t.Within m) (hle : m ≤ n) : t.Within n := by
  cases t with
  | closing pos stop => exact ⟨Nat.le_trans h.1 hle, Nat.le_trans h.2 hle⟩
  | text | opening | item => exact Nat.le_trans h hle

theorem within_textPiece (pos : Nat) (cs : List Char) :
    ∀ t ∈ tokens (textPiece pos cs), t.Within pos := by
  intro t ht
  cases cs with
  | nil => cases ht
  | cons a cs =>
    cases List.mem_singleton.mp ht
    exact Nat.le_refl pos

theorem BodyChars.within {start pos : Nat} {u : List Char} {b : Body} (h : BodyChars pos u b)
    (hs : start ≤ pos) : ∀ t ∈ tokens (b.pieces start), t.Within b.stop := by
  have hclose := h.close
  have hstop := h.stop
  intro t ht
  rcases mem_tokens_pieces ht with rfl | ⟨i, hi, rfl⟩ | rfl
  · change start ≤ b.stop
    omega
  · have hbefore := h.before_close i hi
    change i.pos ≤ b.stop
    omega
  · change b.close ≤ b.stop ∧ b.stop ≤ b.stop
    omega

theorem ReadsPieces.within {pos : Nat} {cs : List Char} {ps : List Piece}
    (h : ReadsPieces pos cs ps) : ∀ t ∈ tokens ps, t.Within (pos + cs.length) := by
  induction h with
  | @last pos cs hn =>
    exact fun t ht => (within_textPiece pos cs t ht).mono (Nat.le_add_right ..)
  | @more pos text before inner b blanks rest ps hn ht hb hr hd _ ih =>
    obtain ⟨u, -, hchars, -⟩ := hb.exists_chars
    have hend := hb.stop_add_rest hr
    rw [← hend]
    intro t ht
    simp only [tokens, List.flatMap_append, List.mem_append] at ht
    rcases ht with (ht | ht) | ht
    · refine (within_textPiece pos _ t ht).mono ?_
      rw [hend]
      exact Nat.le_add_right ..
    · have hstart : pos + text.length ≤ pos + text.length + 2 + (dash before).length := by omega
      refine (hchars.within hstart t ht).mono ?_
      omega
    · exact ih t ht

variable {source : List Char} {n : Nat}

mutual

theorem IsTemplate.site_le {d : Nat} {ts : List Token} {ns : List Node}
    (h : IsTemplate source d ts ns) (ht : ∀ t ∈ ts, t.Within n) : ∀ s ∈ sitesOf ns, s.pos ≤ n :=
  match h with
  | .nil => fun _ hs => nomatch hs
  | .text hrest => hrest.site_le fun t hm => ht t (List.mem_cons_of_mem _ hm)
  | @IsTemplate.action _ _ pos _ _ _ _ _ _ _ hrest => by
    have hpos : pos ≤ n := ht (.opening pos) (by simp)
    have hrest := hrest.site_le fun t hm => ht t (by simp [hm])
    intro s hs
    rcases List.mem_cons.mp hs with rfl | hs
    · exact hpos
    · exact hrest s hs
  | @IsTemplate.block _ _ _ pos _ _ _ _ _ _ hr hrest => by
    have hpos : pos ≤ n := ht (.opening pos) (by simp)
    have hr := hr.site_le hpos fun t hm => ht t (by simp [hm])
    have hrest := hrest.site_le fun t hm => ht t (by simp [hm])
    intro s hs
    rcases List.mem_append.mp hs with hs | hs
    · exact hr s hs
    · exact hrest s hs

theorem IsRest.site_le {k : Keyword} {d pos : Nat} {ts : List Token} {m : Node}
    (h : IsRest source k d pos ts m) (hpos : pos ≤ n) (ht : ∀ t ∈ ts, t.Within n) :
    ∀ s ∈ m.sites, s.pos ≤ n :=
  match h with
  | .mk _ hbody htail => by
    have hbody := hbody.site_le fun t hm => ht t (by simp [hm])
    have htail := htail.site_le fun t hm => ht t (by simp [hm])
    intro s hs
    rcases List.mem_cons.mp hs with rfl | hs
    · exact hpos
    · rcases List.mem_append.mp hs with hs | hs
      · exact hbody s hs
      · exact htail s hs

theorem IsTail.site_le {k : Keyword} {d : Nat} {ts : List Token} {ns : List Node}
    (h : IsTail source k d ts ns) (ht : ∀ t ∈ ts, t.Within n) : ∀ s ∈ sitesOf ns, s.pos ≤ n :=
  match h with
  | .done _ => fun _ hs => nomatch hs
  | .otherwise hbody _ => hbody.site_le fun t hm => ht t (by simp [hm])
  | @IsTail.chain _ _ _ _ elsePos _ _ _ _ _ hr => by
    have hpos : elsePos ≤ n := ht (.word "else" elsePos) (by simp)
    have hr := hr.site_le hpos fun t hm => ht t (by simp [hm])
    intro s hs
    rw [sitesOf, sitesOf, List.append_nil] at hs
    exact hr s hs

end

end AlertRelay.Template
